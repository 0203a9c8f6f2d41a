import Multimaster.Clog.Defs
import Multimaster.Replication.Steps

/-!
# Invariants of the outcomes

How the order of conflicting transactions in the logs is related to the order
in which they were decided.  At a member of its generation a transaction is
prepared after the conflicting ones in front of it were decided; at the other
nodes it stands behind the same transactions as at some member, because
recovery copies a log in order.
-/

namespace Multimaster
namespace Clog

open Generation Replication

variable {conflicts : Xact n → Xact n → Bool}

/-- The invariant of the outcomes. -/
structure Invariant
    (conflicts : Xact n → Xact n → Bool) (cluster : Cluster n) : Prop where
  replication : Replication.Invariant cluster.toCluster
  unique : (cluster.clog.map Prod.fst).Nodup
  decided : ∀ xact commit, (xact, commit) ∈ cluster.clog →
    .prepare xact ∈ cluster.wal xact.coordinator
  committed : ∀ xact, cluster.Committed xact →
    ∀ member ∈ xact.gen.members, (member, xact) ∈ cluster.acks
  finished : ∀ me xact commit, .finish xact commit ∈ cluster.wal me →
    (xact, commit) ∈ cluster.clog
  /-- A receiver in recovery mode drops only aborted transactions. -/
  received : ∀ me running, cluster.recovery me = some running →
    ∀ xact, .prepare xact ∈
      (cluster.wal running.sender).take running.position →
    .prepare xact ∈ cluster.wal me ∨ (xact, false) ∈ cluster.clog
  /-- A conflicting transaction prepared before was decided. -/
  blocked : ∀ me first second,
    Precedes (cluster.wal me) (.prepare first) (.prepare second) →
    conflicts first second = true → ∃ commit, (first, commit) ∈ cluster.clog
  /-- At the members, conflicting transactions prepared before a committed one
  were decided before it. -/
  earlier : ∀ me first second, (me, second) ∈ cluster.acks →
    Precedes (cluster.wal me) (.prepare first) (.prepare second) →
    conflicts first second = true →
    ∀ front, front ++ [(second, true)] <+: cluster.clog →
    ∃ commit, (first, commit) ∈ front
  /-- A transaction stands behind only those it stands behind at some
  member, aborted ones apart. -/
  source : ∀ me first second, .prepare second ∈ cluster.wal me →
    (first, false) ∉ cluster.clog →
    ¬ Precedes (cluster.wal me) (.prepare first) (.prepare second) →
    ∃ member, (member, second) ∈ cluster.acks ∧
      ¬ Precedes (cluster.wal member) (.prepare first) (.prepare second)

/-- A prepare occurs once in a log. -/
theorem prepare_notMem_front
    {cluster : Replication.Cluster n}
    (invariant : Replication.Invariant cluster)
    {me : Fin n} {front : List (Record n)} {xact : Xact n}
    (isPrefix : front ++ [.prepare xact] <+: cluster.wal me) :
    .prepare xact ∉ front := by
  obtain ⟨rest, whole⟩ := isPrefix
  have nodup := invariant.nodup me
  rw [← whole, prepares, List.filterMap_append, List.nodup_append] at nodup
  have front := nodup.1
  rw [List.filterMap_append, List.nodup_append] at front
  intro repeated
  rw [← mem_prepares] at repeated
  exact front.2.2 xact repeated xact (by simp [Record.prepared]) rfl

namespace Invariant

variable {cluster : Cluster n}

/-- Committed and aborted are exclusive. -/
theorem not_aborted
    (invariant : Invariant conflicts cluster)
    {xact : Xact n}
    (committed : cluster.Committed xact) :
    (xact, false) ∉ cluster.clog := by
  intro aborted
  have same := List.inj_on_of_nodup_map invariant.unique committed aborted rfl
  cases same

/-- Committed transactions are viable. -/
theorem viable
    (invariant : Invariant conflicts cluster)
    {xact : Xact n}
    (committed : cluster.Committed xact) :
    Viable cluster.toCluster xact := by
  have isPrepared := invariant.decided xact true committed
  exact {
    majority := (invariant.replication.prepared _ xact isPrepared).majority
    generation := invariant.replication.generation_unique isPrepared
    ackable := fun member isMember =>
      Or.inl (invariant.committed xact committed member isMember)
    notAborted := fun me aborted =>
      invariant.not_aborted committed (invariant.finished me xact false aborted) }

/-! ## Steps -/

/-- The outcome of one more transaction. -/
theorem outcome
    (invariant : Invariant conflicts cluster)
    {xact : Xact n} {commit : Bool}
    (enabled : Enabled conflicts cluster (.decide xact commit)) :
    Invariant conflicts (effect cluster (.decide xact commit)) := by
  obtain ⟨isNew, isPrepared, acked⟩ := enabled
  have more : cluster.clog ⊆ cluster.clog ++ [(xact, commit)] :=
    List.subset_append_left _ _
  exact {
    replication := invariant.replication
    unique := by
      change ((cluster.clog ++ [(xact, commit)]).map Prod.fst).Nodup
      rw [List.map_append, List.map_singleton, ← List.concat_eq_append,
        List.nodup_concat]
      exact ⟨isNew, invariant.unique⟩
    decided := by
      intro other outcome isDecided
      rcases List.mem_append.mp isDecided with old | isLast
      · exact invariant.decided other outcome old
      · cases List.mem_singleton.mp isLast
        exact isPrepared
    committed := by
      intro other isCommitted member isMember
      rcases List.mem_append.mp isCommitted with old | isLast
      · exact invariant.committed other old member isMember
      · cases List.mem_singleton.mp isLast
        exact acked rfl member isMember
    finished := fun me other outcome isFinished =>
      more (invariant.finished me other outcome isFinished)
    received := fun me running isRunning other inFront =>
      (invariant.received me running isRunning other inFront).imp_right
        fun aborted => more aborted
    blocked := fun me first second precedes isConflict =>
      (invariant.blocked me first second precedes isConflict).imp
        fun _ isDecided => more isDecided
    earlier := by
      intro me first second isAck precedes isConflict front isPrefix
      rcases List.prefix_concat_iff.mp isPrefix with isWhole | isShorter
      · rw [List.append_inj_left' isWhole rfl]
        exact invariant.blocked me first second precedes isConflict
      · exact invariant.earlier me first second isAck precedes isConflict
          front isShorter
    source := fun me first second isSecond notAborted =>
      invariant.source me first second isSecond
        fun aborted => notAborted (more aborted) }

/-- Everything written to a log is justified by the outcomes. -/
theorem finished_replicate
    (invariant : Invariant conflicts cluster)
    {action : Replication.Action n}
    (enabled : Replication.Enabled cluster.toCluster action)
    (permitted : Permitted conflicts cluster action) :
    ∀ me xact commit,
      .finish xact commit ∈
        (Replication.effect cluster.toCluster action).wal me →
      (xact, commit) ∈ cluster.clog := by
  have logged : ∀ (other : Fin n) (record : Record n),
      (∀ xact commit, record = .finish xact commit →
        (xact, commit) ∈ cluster.clog) →
      ∀ me xact commit,
        .finish xact commit ∈ (cluster.toCluster.log other record).wal me →
        (xact, commit) ∈ cluster.clog := by
    intro other record isJustified me xact commit isFinished
    by_cases same : me = other
    · subst same
      rw [log_wal_self, List.mem_append, List.mem_singleton] at isFinished
      rcases isFinished with old | isNew
      · exact invariant.finished me xact commit old
      · exact isJustified xact commit isNew.symm
    · rw [log_wal_ne cluster.toCluster record same] at isFinished
      exact invariant.finished me xact commit isFinished
  cases effect_outcome cluster.toCluster action enabled with
  | quiet wal acks recovery =>
      rw [wal]
      exact invariant.finished
  | marked other gen donors wal acks recovery =>
      rw [wal]
      exact logged other _ (by simp)
  | accepted other xact isAction isNew wal acks recovery =>
      rw [wal]
      exact logged other _ (by simp)
  | finished other xact commit isAction pending wal acks recovery =>
      rw [wal]
      apply logged other
      intro same outcome isSame
      cases isSame
      rw [isAction] at permitted
      exact permitted
  | recovered other running record isAction isRunning isNext canRecover wal
      acks recovery =>
      rw [wal]
      cases record with
      | parallelSafe gen donors => exact invariant.finished
      | prepare xact => exact logged other _ (by simp)
      | finish xact commit =>
          apply logged other
          intro same outcome isSame
          cases isSame
          exact invariant.finished _ xact commit (List.mem_of_getElem? isNext)
  | skipped other running record isAction isRunning isNext canSkip wal acks
      recovery =>
      rw [wal]
      exact invariant.finished

/-- What a receiver has read before a step it still has after it. -/
theorem received_grown
    (invariant : Invariant conflicts cluster)
    {after : Replication.Cluster n}
    (grows : Grows cluster.toCluster after)
    {me : Fin n} {running : Recovery n}
    (isRunning : cluster.recovery me = some running)
    {xact : Xact n}
    (inFront : .prepare xact ∈
      (after.wal running.sender).take running.position) :
    .prepare xact ∈ after.wal me ∨ (xact, false) ∈ cluster.clog := by
  have bounded :=
    (invariant.replication.recovery me running isRunning).bounded
  obtain ⟨rest, grown⟩ := grows.wal running.sender
  rw [← grown, List.take_append_of_le_length bounded] at inFront
  exact (invariant.received me running isRunning xact inFront).imp_left
    fun already => (grows.wal me).subset already

/-- Receivers that consume a record which is then applied or aborted. -/
theorem received_consume
    (invariant : Invariant conflicts cluster)
    {after : Replication.Cluster n}
    (grows : Grows cluster.toCluster after)
    {me : Fin n} {running : Recovery n} {record : Record n}
    (isRunning : cluster.recovery me = some running)
    (isNext : (cluster.wal running.sender)[running.position]? = some record)
    (recovery : after.recovery = (cluster.toCluster.consume me).recovery)
    (applied : ∀ xact, record = .prepare xact →
      .prepare xact ∈ after.wal me ∨ (xact, false) ∈ cluster.clog) :
    ∀ other ahead, after.recovery other = some ahead →
      ∀ xact, .prepare xact ∈ (after.wal ahead.sender).take ahead.position →
      .prepare xact ∈ after.wal other ∨ (xact, false) ∈ cluster.clog := by
  intro other ahead isAhead xact inFront
  rw [recovery] at isAhead
  by_cases same : other = me
  · subst same
    simp only [Replication.Cluster.consume, Function.update_self, isRunning,
      Option.map_some, Option.some.injEq] at isAhead
    subst isAhead
    obtain ⟨rest, grown⟩ := grows.wal running.sender
    obtain ⟨inside, isRecord⟩ := List.getElem?_eq_some_iff.mp isNext
    dsimp only at inFront
    rw [← grown, List.take_append_of_le_length inside,
      List.take_succ_eq_append_getElem inside, isRecord, List.mem_append,
      List.mem_singleton] at inFront
    rcases inFront with old | isThis
    · apply invariant.received_grown grows isRunning
      rw [← grown, List.take_append_of_le_length (le_of_lt inside)]
      exact old
    · exact applied xact isThis.symm
  · simp only [Replication.Cluster.consume, Function.update_of_ne same]
      at isAhead
    exact invariant.received_grown grows isAhead inFront

theorem received_replicate
    (invariant : Invariant conflicts cluster)
    {action : Replication.Action n}
    (enabled : Replication.Enabled cluster.toCluster action) :
    ∀ me running,
      (Replication.effect cluster.toCluster action).recovery me =
        some running →
      ∀ xact, .prepare xact ∈
        ((Replication.effect cluster.toCluster action).wal
          running.sender).take running.position →
      .prepare xact ∈
          (Replication.effect cluster.toCluster action).wal me ∨
        (xact, false) ∈ cluster.clog := by
  have grows := grows_effect cluster.toCluster action enabled
  cases effect_outcome cluster.toCluster action enabled with
  | quiet wal acks recovery =>
      intro me running isRunning xact inFront
      rcases recovery me running isRunning with old | atStart
      · exact invariant.received_grown grows old inFront
      · rw [atStart, List.take_zero] at inFront
        cases inFront
  | marked other gen donors wal acks recovery =>
      intro me running isRunning xact inFront
      rw [recovery] at isRunning
      exact invariant.received_grown grows isRunning inFront
  | accepted other xact isAction isNew wal acks recovery =>
      intro me running isRunning xact inFront
      rw [recovery] at isRunning
      exact invariant.received_grown grows isRunning inFront
  | finished other xact commit isAction pending wal acks recovery =>
      intro me running isRunning xact inFront
      rw [recovery] at isRunning
      exact invariant.received_grown grows isRunning inFront
  | recovered me running record isAction isRunning isNext canRecover wal
      acks recovery =>
      apply invariant.received_consume grows isRunning isNext recovery
      intro xact isPrepare
      subst isPrepare
      rw [wal]
      exact Or.inl (by simp [applyRecord])
  | skipped me running record isAction isRunning isNext canSkip wal acks
      recovery =>
      apply invariant.received_consume grows isRunning isNext recovery
      intro xact isPrepare
      subst isPrepare
      rw [wal]
      exact canSkip.imp_right (invariant.finished _ xact false)

/-- A prepare is written only when the conflicting ones before it are
decided. -/
theorem blocked_replicate
    (invariant : Invariant conflicts cluster)
    {action : Replication.Action n}
    (enabled : Replication.Enabled cluster.toCluster action)
    (permitted : Permitted conflicts cluster action) :
    ∀ me first second,
      Precedes ((Replication.effect cluster.toCluster action).wal me)
        (.prepare first) (.prepare second) →
      conflicts first second = true →
      ∃ commit, (first, commit) ∈ cluster.clog := by
  have logged : ∀ (other : Fin n) (record : Record n),
      (∀ xact, record = .prepare xact →
        Unblocked conflicts (cluster.wal other) xact) →
      ∀ me first second,
        Precedes ((cluster.toCluster.log other record).wal me)
          (.prepare first) (.prepare second) →
        conflicts first second = true →
        ∃ commit, (first, commit) ∈ cluster.clog := by
    intro other record unblocked me first second precedes isConflict
    by_cases same : me = other
    · subst same
      rw [log_wal_self, Precedes.concat] at precedes
      rcases precedes with old | ⟨isRecord, isFirst⟩
      · exact invariant.blocked me first second old isConflict
      · have notPending := unblocked second isRecord.symm first
          (mem_prepares.mpr isFirst) isConflict
        obtain ⟨commit, isFinished⟩ :=
          finished_of_not_pending isFirst notPending
        exact ⟨commit, invariant.finished me first commit isFinished⟩
    · rw [log_wal_ne cluster.toCluster record same] at precedes
      exact invariant.blocked me first second precedes isConflict
  cases effect_outcome cluster.toCluster action enabled with
  | quiet wal acks recovery =>
      rw [wal]
      exact invariant.blocked
  | marked other gen donors wal acks recovery =>
      rw [wal]
      exact logged other _ (by simp)
  | accepted other xact isAction isNew wal acks recovery =>
      rw [wal]
      apply logged other
      intro same isSame
      cases isSame
      rcases isAction with isApply | ⟨isPrepare, isCoordinator⟩
      · rw [isApply] at permitted
        exact permitted
      · rw [isPrepare] at permitted
        rw [isCoordinator]
        exact permitted
  | finished other xact commit isAction pending wal acks recovery =>
      rw [wal]
      exact logged other _ (by simp)
  | recovered other running record isAction isRunning isNext canRecover wal
      acks recovery =>
      rw [wal]
      cases record with
      | parallelSafe gen donors => exact invariant.blocked
      | prepare xact =>
          apply logged other
          intro same isSame
          cases isSame
          rw [isAction] at permitted
          have isNextRecord : nextRecord cluster.toCluster other =
              some (.prepare xact) := by
            simp only [nextRecord, isRunning, Option.bind_some, isNext]
          exact permitted _ isNextRecord
      | finish xact commit => exact logged other _ (by simp)
  | skipped other running record isAction isRunning isNext canSkip wal acks
      recovery =>
      rw [wal]
      exact invariant.blocked

theorem earlier_replicate
    (invariant : Invariant conflicts cluster)
    {action : Replication.Action n}
    (enabled : Replication.Enabled cluster.toCluster action) :
    ∀ me first second,
      (me, second) ∈ (Replication.effect cluster.toCluster action).acks →
      Precedes ((Replication.effect cluster.toCluster action).wal me)
        (.prepare first) (.prepare second) →
      conflicts first second = true →
      ∀ front, front ++ [(second, true)] <+: cluster.clog →
      ∃ commit, (first, commit) ∈ front := by
  intro me first second isAck precedes isConflict front isPrefix
  have after := invariant.replication.step action enabled
  have isMember := (after.acked me second isAck).member
  have isCommitted : cluster.Committed second :=
    isPrefix.subset (List.mem_append_right _ (List.mem_singleton_self _))
  have wasAck := invariant.committed second isCommitted me isMember
  have wasPrepared :=
    (invariant.replication.acked me second wasAck).prepared
  exact invariant.earlier me first second wasAck
    (precedes_effect enabled wasPrepared precedes) isConflict front isPrefix

/-- A prepare recovered from another node stands behind the same
transactions there. -/
theorem source_recovered
    (invariant : Invariant conflicts cluster)
    {me : Fin n} {running : Recovery n} {first second : Xact n}
    (isRunning : cluster.recovery me = some running)
    (isNext : (cluster.wal running.sender)[running.position]? =
      some (.prepare second))
    (notAborted : (first, false) ∉ cluster.clog)
    (missing : .prepare first ∉ cluster.wal me) :
    ∃ member, (member, second) ∈ cluster.acks ∧
      ¬ Precedes (cluster.wal member) (.prepare first)
        (.prepare second) := by
  obtain ⟨inside, isRecord⟩ := List.getElem?_eq_some_iff.mp isNext
  apply invariant.source running.sender first second
    (List.mem_of_getElem? isNext) notAborted
  intro precedes
  have isPrefix : (cluster.wal running.sender).take running.position ++
      [.prepare second] <+: cluster.wal running.sender := by
    rw [← isRecord, ← List.take_succ_eq_append_getElem inside]
    exact List.take_prefix _ _
  have inFront := precedes.mem_front isPrefix
    fun front => prepare_notMem_front invariant.replication
  rcases invariant.received me running isRunning first inFront with
    already | aborted
  · exact missing already
  · exact notAborted aborted

theorem source_replicate
    (invariant : Invariant conflicts cluster)
    {action : Replication.Action n}
    (enabled : Replication.Enabled cluster.toCluster action) :
    ∀ me first second,
      .prepare second ∈
        (Replication.effect cluster.toCluster action).wal me →
      (first, false) ∉ cluster.clog →
      ¬ Precedes ((Replication.effect cluster.toCluster action).wal me)
        (.prepare first) (.prepare second) →
      ∃ member,
        (member, second) ∈
          (Replication.effect cluster.toCluster action).acks ∧
        ¬ Precedes ((Replication.effect cluster.toCluster action).wal member)
          (.prepare first) (.prepare second) := by
  intro me first second isSecond notAborted unordered
  have grows := grows_effect cluster.toCluster action enabled
  -- a member found before the step serves after it
  have lift : (∃ member, (member, second) ∈ cluster.acks ∧
      ¬ Precedes (cluster.wal member) (.prepare first) (.prepare second)) →
      ∃ member,
        (member, second) ∈
          (Replication.effect cluster.toCluster action).acks ∧
        ¬ Precedes ((Replication.effect cluster.toCluster action).wal member)
          (.prepare first) (.prepare second) := by
    rintro ⟨member, isAck, before⟩
    have wasPrepared :=
      (invariant.replication.acked member second isAck).prepared
    exact ⟨member, grows.acks isAck,
      fun precedes => before (precedes_effect enabled wasPrepared precedes)⟩
  by_cases old : .prepare second ∈ cluster.wal me
  · exact lift (invariant.source me first second old notAborted
      fun precedes => unordered (precedes.mono (grows.wal me)))
  -- the second transaction is written in this step
  have missing : ∀ {other : Fin n} {record : Record n},
      (Replication.effect cluster.toCluster action).wal =
        (cluster.toCluster.log other record).wal →
      me = other ∧ record = .prepare second ∧
        .prepare first ∉ cluster.wal me := by
    intro other record wal
    rw [wal] at isSecond unordered
    by_cases same : me = other
    · subst same
      rw [log_wal_self, List.mem_append, List.mem_singleton] at isSecond
      rcases isSecond with wasSecond | isRecord
      · exact absurd wasSecond old
      · refine ⟨rfl, isRecord.symm, ?_⟩
        intro isFirst
        apply unordered
        rw [log_wal_self, Precedes.concat]
        exact Or.inr ⟨isRecord, isFirst⟩
    · rw [log_wal_ne cluster.toCluster record same] at isSecond
      exact absurd isSecond old
  cases effect_outcome cluster.toCluster action enabled with
  | quiet wal acks recovery =>
      rw [wal] at isSecond
      exact absurd isSecond old
  | marked other gen donors wal acks recovery =>
      obtain ⟨_, isRecord, _⟩ := missing wal
      cases isRecord
  | accepted other xact isAction isNew wal acks recovery =>
      obtain ⟨isMe, isRecord, _⟩ := missing wal
      cases isRecord
      subst isMe
      refine ⟨me, ?_, unordered⟩
      rw [acks]
      exact List.mem_cons_self
  | finished other xact commit isAction pending wal acks recovery =>
      obtain ⟨_, isRecord, _⟩ := missing wal
      cases isRecord
  | recovered other running record isAction isRunning isNext canRecover wal
      acks recovery =>
      cases record with
      | parallelSafe gen donors =>
          rw [wal] at isSecond
          exact absurd isSecond old
      | prepare xact =>
          obtain ⟨isMe, isRecord, isMissing⟩ := missing wal
          cases isRecord
          subst isMe
          exact lift (invariant.source_recovered isRunning isNext notAborted
            isMissing)
      | finish xact commit =>
          obtain ⟨_, isRecord, _⟩ := missing wal
          cases isRecord
  | skipped other running record isAction isRunning isNext canSkip wal acks
      recovery =>
      rw [wal] at isSecond
      exact absurd isSecond old

/-- A step of replication. -/
theorem replicate
    (invariant : Invariant conflicts cluster)
    {action : Replication.Action n}
    (enabled : Enabled conflicts cluster (.replicate action)) :
    Invariant conflicts (effect cluster (.replicate action)) := by
  obtain ⟨canReplicate, permitted⟩ := enabled
  have grows := grows_effect cluster.toCluster action canReplicate
  exact {
    replication := invariant.replication.step action canReplicate
    unique := invariant.unique
    decided := fun xact commit isDecided =>
      (grows.wal _).subset (invariant.decided xact commit isDecided)
    committed := fun xact isCommitted member isMember =>
      grows.acks (invariant.committed xact isCommitted member isMember)
    finished := invariant.finished_replicate canReplicate permitted
    received := invariant.received_replicate canReplicate
    blocked := invariant.blocked_replicate canReplicate permitted
    earlier := invariant.earlier_replicate canReplicate
    source := invariant.source_replicate canReplicate }

theorem step
    (invariant : Invariant conflicts cluster)
    (action : Action n)
    (enabled : Enabled conflicts cluster action) :
    Invariant conflicts (effect cluster action) := by
  cases action with
  | replicate action => exact invariant.replicate enabled
  | decide xact commit => exact invariant.outcome enabled

end Invariant

theorem invariant_initialCluster (n : ℕ) (conflicts : Xact n → Xact n → Bool) :
    Invariant conflicts (machine conflicts).init where
  replication := Replication.invariant_initialCluster n
  unique := List.nodup_nil
  decided := fun _ _ isDecided => by cases isDecided
  committed := fun _ isCommitted => by cases isCommitted
  finished := fun _ _ _ isFinished => by cases isFinished
  received := fun _ _ isRunning => by cases isRunning
  blocked := fun _ _ _ precedes => by cases precedes.mem_left
  earlier := fun _ _ _ isAck => by cases isAck
  source := fun _ _ _ isSecond => by cases isSecond

/-- The invariant holds in every reachable state. -/
theorem invariant_of_reachable
    {allowed : Cluster n → Action n → Prop} {cluster : Cluster n}
    (reachable : (machine conflicts).Reachable allowed cluster) :
    Invariant conflicts cluster := by
  refine Machine.Reachable.invariant (invariant_initialCluster n conflicts) ?_
    reachable
  intro current action invariant enabled _
  exact invariant.step action enabled

end Clog
end Multimaster
