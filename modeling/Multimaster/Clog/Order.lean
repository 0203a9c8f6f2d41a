import Multimaster.Clog.Invariant
import Multimaster.Election.Unique

/-!
# Generation safety

The two properties of generations and the order of conflicting transactions,
`OrderOk` of `MtmGenerations.tla`.  Committed transactions are viable in every
earlier state, so the first two properties are those of replication.  For the
third one the outcomes themselves are the reference order: the committed
transactions of a pairwise conflicting set stand in every log in the order in
which they were decided, without gaps.
-/

namespace Multimaster
namespace Clog

open Generation Replication

variable {conflicts : Xact n → Xact n → Bool}

/-- The committed transactions in the order of their commits. -/
def Cluster.commits (cluster : Cluster n) : List (Xact n) :=
  cluster.clog.filterMap fun outcome =>
    if outcome.2 then some outcome.1 else none

theorem mem_commits {cluster : Cluster n} {xact : Xact n} :
    xact ∈ cluster.commits ↔ cluster.Committed xact := by
  simp [Cluster.commits, Cluster.Committed]

theorem commits_precedes {cluster : Cluster n} {first second : Xact n} :
    Precedes cluster.commits first second ↔
      Precedes cluster.clog (first, true) (second, true) := by
  rw [Cluster.commits, Precedes.filterMap]
  constructor
  · rintro ⟨⟨left, leftCommit⟩, ⟨right, rightCommit⟩, isFirst, isSecond,
      precedes⟩
    cases leftCommit <;> cases rightCommit <;> simp at isFirst isSecond
    subst isFirst isSecond
    exact precedes
  · intro precedes
    exact ⟨(first, true), (second, true), rfl, rfl, precedes⟩

theorem prepares_precedes {wal : List (Record n)} {first second : Xact n} :
    Precedes (prepares wal) first second ↔
      Precedes wal (.prepare first) (.prepare second) := by
  rw [prepares, Precedes.filterMap]
  constructor
  · rintro ⟨left, right, isFirst, isSecond, precedes⟩
    rw [Record.prepared_eq_some] at isFirst isSecond
    rw [isFirst, isSecond] at precedes
    exact precedes
  · intro precedes
    exact ⟨_, _, rfl, rfl, precedes⟩

namespace Invariant

variable {cluster : Cluster n}

theorem commits_nodup
    (invariant : Invariant conflicts cluster) :
    cluster.commits.Nodup := by
  have sublist : cluster.commits.Sublist (cluster.clog.map Prod.fst) := by
    unfold Cluster.commits
    generalize cluster.clog = clog
    induction clog with
    | nil => exact List.Sublist.slnil
    | cons outcome rest inductionHypothesis =>
        obtain ⟨xact, commit⟩ := outcome
        cases commit with
        | false => simpa using inductionHypothesis.cons xact
        | true => simpa using inductionHypothesis
  exact invariant.unique.sublist sublist

/-- A committed transaction stands before every prepare of a later
generation. -/
theorem precedes_of_gen
    (invariant : Invariant conflicts cluster)
    {me : Fin n} {first second : Xact n}
    (viable : Viable cluster.toCluster first)
    (isSecond : .prepare second ∈ cluster.wal me)
    (earlier : first.gen.num < second.gen.num) :
    Precedes (cluster.wal me) (.prepare first) (.prepare second) := by
  obtain ⟨front, rest, whole⟩ := List.append_of_mem isSecond
  have isPrefix : front ++ [.prepare second] <+: cluster.wal me :=
    ⟨rest, by rw [whole]; simp⟩
  exact ⟨front, isPrefix, invariant.replication.ordered me front _ isPrefix
    first viable earlier⟩

/-- Decided at a member before a commit means decided before it. -/
theorem decided_before
    (invariant : Invariant conflicts cluster)
    {me : Fin n} {first second : Xact n}
    (firstCommitted : cluster.Committed first)
    (isAck : (me, second) ∈ cluster.acks)
    (precedes : Precedes (cluster.wal me) (.prepare first) (.prepare second))
    (isConflict : conflicts first second = true) :
    ¬ Precedes cluster.commits second first := by
  intro reversed
  have secondCommitted := mem_commits.mp reversed.mem_left
  obtain ⟨front, rest, whole⟩ := List.append_of_mem secondCommitted
  have isPrefix : front ++ [(second, true)] <+: cluster.clog :=
    ⟨rest, by rw [whole]; simp⟩
  obtain ⟨commit, inFront⟩ := invariant.earlier me first second isAck
    precedes isConflict front isPrefix
  have inClog : (first, commit) ∈ cluster.clog :=
    isPrefix.subset (List.mem_append_left _ inFront)
  have isCommit : commit = true := by
    cases commit with
    | true => rfl
    | false => exact absurd inClog (invariant.not_aborted firstCommitted)
  rw [isCommit] at inFront
  have forward : Precedes cluster.commits first second :=
    commits_precedes.mpr ⟨front, isPrefix, inFront⟩
  exact forward.asymm invariant.commits_nodup reversed

/-- Conflicting committed transactions stand in every log in the order of
their commits. -/
theorem precedes_of_commits
    (invariant : Invariant conflicts cluster)
    {me : Fin n} {first second : Xact n}
    (precedes : Precedes cluster.commits first second)
    (isConflict : conflicts second first = true)
    (isSecond : .prepare second ∈ cluster.wal me) :
    Precedes (cluster.wal me) (.prepare first) (.prepare second) := by
  by_contra unordered
  have firstCommitted := mem_commits.mp precedes.mem_left
  have secondCommitted := mem_commits.mp precedes.mem_right
  have firstPrepared := invariant.decided first true firstCommitted
  obtain ⟨member, isAck, atMember⟩ := invariant.source me first second
    isSecond (invariant.not_aborted firstCommitted) unordered
  have ackOk := invariant.replication.acked member second isAck
  rcases Nat.lt_trichotomy first.gen.num second.gen.num with
    lower | same | higher
  · exact atMember (invariant.precedes_of_gen
      (invariant.viable firstCommitted) ackOk.prepared lower)
  · -- one generation: the member has both, the other way round
    obtain ⟨donors, announced⟩ :=
      (invariant.replication.prepared _ second ackOk.prepared).announced
    have sameGen : second.gen = first.gen :=
      invariant.replication.generation_unique firstPrepared _ announced
        same.symm
    have isMember : member ∈ first.gen.members := sameGen ▸ ackOk.member
    have firstAck := invariant.committed first firstCommitted member isMember
    have different : first ≠ second := by
      intro isSame
      subst isSame
      exact precedes.asymm invariant.commits_nodup precedes
    have reversed := (Precedes.total (fun isSame => different
      (by injection isSame))
      (invariant.replication.acked member first firstAck).prepared
      ackOk.prepared).resolve_left atMember
    exact invariant.decided_before secondCommitted firstAck reversed
      isConflict precedes
  · -- the members of the later generation have the earlier transaction
    have genuine := invariant.replication.prepared _ first firstPrepared
    obtain ⟨holder, isHolder⟩ := genuine.majority.nonempty
    have firstAck := invariant.committed first firstCommitted holder isHolder
    have atHolder := (invariant.replication.acked holder first
      firstAck).prepared
    exact invariant.decided_before secondCommitted firstAck
      (invariant.precedes_of_gen (invariant.viable secondCommitted) atHolder
        higher)
      isConflict precedes

/-- The committed transactions of a conflicting set stand in every log as a
prefix of the commits. -/
theorem prefix_commits
    (invariant : Invariant conflicts cluster)
    {chosen : Xact n → Bool}
    (pairwise : ∀ first second, chosen first = true → chosen second = true →
      first ≠ second → conflicts first second = true)
    (me : Fin n) :
    (prepares (cluster.wal me)).filter
        (fun xact => chosen xact && decide (cluster.Committed xact)) <+:
      cluster.commits.filter chosen := by
  apply prefix_of_precedes
  · exact (invariant.replication.nodup me).filter _
  · exact invariant.commits_nodup.filter _
  · intro xact isKept
    simp only [List.mem_filter, Bool.and_eq_true, decide_eq_true_eq]
      at isKept
    exact List.mem_filter.mpr ⟨mem_commits.mpr isKept.2.2, isKept.2.1⟩
  · intro first second precedes isSecond
    obtain ⟨firstChosen, secondChosen, inCommits⟩ :=
      (Precedes.filter chosen).mp precedes
    have different : second ≠ first := by
      intro isSame
      subst isSame
      exact inCommits.asymm invariant.commits_nodup inCommits
    have isPrepared := mem_prepares.mp (List.mem_of_mem_filter isSecond)
    refine (Precedes.filter _).mpr ⟨?_, ?_, ?_⟩
    · simpa [firstChosen] using mem_commits.mp inCommits.mem_left
    · simpa [secondChosen] using mem_commits.mp inCommits.mem_right
    · exact prepares_precedes.mpr (invariant.precedes_of_commits inCommits
        (pairwise second first secondChosen firstChosen different)
        isPrepared)

end Invariant

/-- Generation safety.  Let `last` be any state after `first`, so that the
transactions committed in `last` are those committed at the time of `first` or
later.  Then in `first`

* a node that is online in a generation has prepared every such transaction of
  the generations before;
* in every log, such transactions of a generation stand before those of later
  generations;
* for pairwise conflicting transactions, such transactions in any two logs
  form sequences one of which is a prefix of the other. -/
theorem generation_safety
    {first last : Cluster n}
    (reachable : (machine conflicts).Reachable Machine.Always first)
    (run : (machine conflicts).Run Machine.Always first last) :
    (∀ me xact,
      mtmGetCurrentStatusInGen me (first.node me).toMtmStateOnDisk =
        .online →
      last.Committed xact →
      xact.gen.num < (first.node me).currentGen.num →
      .prepare xact ∈ first.wal me) ∧
    (∀ me earlier later,
      last.Committed earlier → last.Committed later →
      earlier.gen.num < later.gen.num →
      .prepare later ∈ first.wal me →
      Precedes (first.wal me) (.prepare earlier) (.prepare later) ∧
        ¬ Precedes (first.wal me) (.prepare later) (.prepare earlier)) ∧
    (∀ chosen : Xact n → Bool,
      (∀ left right, chosen left = true → chosen right = true →
        left ≠ right → conflicts left right = true) →
      ∀ one other,
        let committed (me : Fin n) := (prepares (first.wal me)).filter
          fun xact => chosen xact && decide (last.Committed xact)
        committed one <+: committed other ∨
          committed other <+: committed one) := by
  have invariant := invariant_of_reachable reachable
  have lastInvariant := invariant_of_reachable (reachable.run run)
  have viewed : (Replication.machine n).Run Machine.Always
      first.toCluster last.toCluster :=
    (replicationProjection conflicts).run (fun _ _ _ _ _ _ => trivial) run
  have grows := grows_of_run viewed
  -- who is online is up to the election protocol inside
  have electing : Election.Invariant first.election :=
    Election.invariant_of_reachable (Replication.election_reachable
      ((replicationProjection conflicts).reachable reachable))
  have viable {xact : Xact n} (committed : last.Committed xact) :
      Viable first.toCluster xact :=
    (lastInvariant.viable committed).of_grows grows
  refine ⟨?_, ?_, ?_⟩
  · intro me xact isOnline committed earlier
    rw [mtmGetCurrentStatusInGen_eq_online] at isOnline
    exact invariant.replication.online me _ (electing.node me).onlineLast xact
      (viable committed) (isOnline ▸ earlier)
  · intro me earlier later earlierCommitted laterCommitted lower isLater
    have precedes := invariant.precedes_of_gen (viable earlierCommitted)
      isLater lower
    refine ⟨precedes, fun reversed => ?_⟩
    exact (prepares_precedes.mpr precedes).asymm
      (invariant.replication.nodup me) (prepares_precedes.mpr reversed)
  · intro chosen pairwise one other committed
    have isPrefix (me : Fin n) :
        committed me <+: last.commits.filter chosen := by
      have atLast := lastInvariant.prefix_commits pairwise me
      refine List.IsPrefix.trans ?_ atLast
      exact ((grows.wal me).filterMap _).filter _
    exact List.prefix_or_prefix_of_prefix (isPrefix one) (isPrefix other)

/-! ## A run with two generations -/

/-- A transaction of the initial generation. -/
def firstXact : Xact 3 where
  coordinator := 0
  gen := initialGen 3
  xid := 1

/-- A transaction of the generation that excludes node 2. -/
def secondXact : Xact 3 where
  coordinator := 1
  gen := { num := 2, members := {0, 1}, configured := Finset.univ }
  xid := 2

/-- A transaction is committed by all three nodes; nodes 0 and 1 exclude node 2
and commit another one, which waits for the first to finish. -/
def twoGenerations : List (Action 3) :=
  [Action.replicate (.logParallelSafe 0), .replicate (.logParallelSafe 1),
    .replicate (.logParallelSafe 2), .replicate (.prepare firstXact),
    .replicate (.applyPrepare 1 firstXact),
    .replicate (.applyPrepare 2 firstXact),
    .decide firstXact true, .replicate (.finish 0 firstXact true),
    .replicate (.finish 1 firstXact true)] ++
  (Election.excludeNodeTwo.map fun action =>
    Action.replicate (.election action)) ++
  [Action.replicate (.logParallelSafe 0), .replicate (.logParallelSafe 1),
    .replicate (.prepare secondXact),
    .replicate (.applyPrepare 0 secondXact), .decide secondXact true]

/-- All transactions conflict, as in the specification. -/
def allConflict (_ _ : Xact 3) : Bool := true

theorem twoGenerations_completes :
    ((machine allConflict).execute Machine.Always (machine allConflict).init
      twoGenerations).isSome = true := by
  decide +kernel

/-- The last state of the schedule. -/
def twoGenerationsCluster : Cluster 3 :=
  ((machine allConflict).execute Machine.Always (machine allConflict).init
    twoGenerations).get twoGenerations_completes

theorem generation_safety_twoGenerations :
    twoGenerationsCluster.Committed firstXact ∧
      twoGenerationsCluster.Committed secondXact ∧
      Precedes (twoGenerationsCluster.wal 1) (.prepare firstXact)
        (.prepare secondXact) := by
  have reachable : (machine allConflict).Reachable Machine.Always
      twoGenerationsCluster :=
    Machine.reachable_of_execute twoGenerations twoGenerations_completes
  have first : twoGenerationsCluster.Committed firstXact := by
    decide +kernel
  have second : twoGenerationsCluster.Committed secondXact := by
    decide +kernel
  have written : .prepare secondXact ∈ twoGenerationsCluster.wal 1 := by
    decide +kernel
  exact ⟨first, second, ((generation_safety reachable
    (Machine.Run.refl _)).2.1 1 firstXact secondXact first second
    (by decide) written).1⟩

end Clog
end Multimaster
