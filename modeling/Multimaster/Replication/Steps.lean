import Multimaster.Replication.Invariant

/-!
# What a step does to logs, replies and receivers

The layers above replication speak about logs and replies only.  `Outcome`
lists what a step can do to them.
-/

namespace Multimaster
namespace Replication

open Generation

/-- The effect of an action on logs, replies and receivers. -/
inductive Outcome
    (cluster : Cluster n) (action : Action n) (after : Cluster n) : Prop
  /-- Nothing is written; receivers end, or start from the beginning. -/
  | quiet
      (wal : after.wal = cluster.wal)
      (acks : after.acks = cluster.acks)
      (recovery : ∀ me running, after.recovery me = some running →
        cluster.recovery me = some running ∨ running.position = 0)
  /-- A `ParallelSafe` record of the node itself. -/
  | marked (me : Fin n) (gen : MtmGeneration n) (donors : NodeMask n)
      (wal : after.wal = (cluster.log me (.parallelSafe gen donors)).wal)
      (acks : after.acks = cluster.acks)
      (recovery : after.recovery = cluster.recovery)
  /-- A prepare with a reply. -/
  | accepted (me : Fin n) (xact : Xact n)
      (isAction : action = .applyPrepare me xact ∨
        (action = .prepare xact ∧ me = xact.coordinator))
      (isNew : .prepare xact ∉ cluster.wal me)
      (wal : after.wal = (cluster.log me (.prepare xact)).wal)
      (acks : after.acks = (me, xact) :: cluster.acks)
      (recovery : after.recovery = cluster.recovery)
  /-- A transaction finished by the node itself. -/
  | finished (me : Fin n) (xact : Xact n) (commit : Bool)
      (isAction : action = .finish me xact commit)
      (pending : Pending (cluster.wal me) xact)
      (wal : after.wal = (cluster.log me (.finish xact commit)).wal)
      (acks : after.acks = cluster.acks)
      (recovery : after.recovery = cluster.recovery)
  /-- A record applied in recovery mode. -/
  | recovered (me : Fin n) (running : Recovery n) (record : Record n)
      (isAction : action = .recover me)
      (isRunning : cluster.recovery me = some running)
      (isNext : (cluster.wal running.sender)[running.position]? =
        some record)
      (canRecover : CanRecover cluster me record)
      (wal : after.wal = (applyRecord cluster me record).wal)
      (acks : after.acks = cluster.acks)
      (recovery : after.recovery = (cluster.consume me).recovery)
  /-- A record filtered out in recovery mode. -/
  | skipped (me : Fin n) (running : Recovery n) (record : Record n)
      (isAction : action = .skip me)
      (isRunning : cluster.recovery me = some running)
      (isNext : (cluster.wal running.sender)[running.position]? =
        some record)
      (canSkip : CanSkip cluster me running.sender record)
      (wal : after.wal = cluster.wal)
      (acks : after.acks = cluster.acks)
      (recovery : after.recovery = (cluster.consume me).recovery)

/-- Every step is one of the listed outcomes. -/
theorem effect_outcome
    (cluster : Cluster n) (action : Action n)
    (enabled : Enabled cluster action) :
    Outcome cluster action (effect cluster action) := by
  cases action with
  | election action => exact .quiet rfl rfl fun _ _ => Or.inl
  | crash me =>
      exact .quiet rfl rfl fun _ _ isRunning =>
        Or.inl (Invariant.update_none isRunning)
  | logParallelSafe me => exact .marked me _ _ rfl rfl rfl
  | prepare xact =>
      exact .accepted xact.coordinator xact (Or.inr ⟨rfl, rfl⟩)
        enabled.2.2 rfl rfl rfl
  | applyPrepare me xact =>
      exact .accepted me xact (Or.inl rfl) enabled.2.2.2.2 rfl rfl rfl
  | finish me xact commit =>
      exact .finished me xact commit rfl enabled rfl rfl rfl
  | startRecovery me sender =>
      refine .quiet rfl rfl ?_
      intro other running isRunning
      by_cases same : other = me
      · subst same
        simp only [effect, Function.update_self, Option.some.injEq]
          at isRunning
        exact Or.inr (by rw [← isRunning])
      · simp only [effect, Function.update_of_ne same] at isRunning
        exact Or.inl isRunning
  | recover me =>
      obtain ⟨record, isNext, canRecover⟩ := enabled
      have isNext : nextRecord cluster me = some record := isNext
      obtain ⟨running, isRunning, isRecord⟩ :=
        Option.bind_eq_some_iff.mp isNext
      simp only [effect, isNext]
      have recovery : (applyRecord cluster me record).recovery =
          cluster.recovery := by
        cases record <;> rfl
      refine .recovered me running record rfl isRunning isRecord canRecover
        rfl ?_ ?_
      · cases record <;> rfl
      · rw [Cluster.consume, Cluster.consume, recovery]
  | skip me =>
      obtain ⟨running, isRunning, record, isNext, canSkip⟩ := enabled
      obtain ⟨sameRunning, isSame, isRecord⟩ :=
        Option.bind_eq_some_iff.mp isNext
      have same : sameRunning = running :=
        Option.some_injective _ (isSame.symm.trans isRunning)
      subst same
      exact .skipped me sameRunning record rfl isRunning isRecord canSkip
        rfl rfl rfl
  | stopRecovery me =>
      exact .quiet rfl rfl fun _ _ isRunning =>
        Or.inl (Invariant.update_none isRunning)

/-- The record written by a step: at most one, at one node. -/
inductive Written
    (cluster : Cluster n) (after : Cluster n) : Prop
  | nothing
      (wal : after.wal = cluster.wal)
  | record (me : Fin n) (record : Record n)
      (isNew : ∀ xact, record = .prepare xact →
        .prepare xact ∉ cluster.wal me)
      (wal : after.wal = (cluster.log me record).wal)

theorem effect_written
    (cluster : Cluster n) (action : Action n)
    (enabled : Enabled cluster action) :
    Written cluster (effect cluster action) := by
  cases effect_outcome cluster action enabled with
  | quiet wal acks recovery => exact .nothing wal
  | marked me gen donors wal acks recovery =>
      exact .record me _ (by simp) wal
  | accepted me xact isAction isNew wal acks recovery =>
      exact .record me _ (fun _ isSame => by cases isSame; exact isNew) wal
  | finished me xact commit isAction pending wal acks recovery =>
      exact .record me _ (by simp) wal
  | recovered me running record isAction isRunning isNext canRecover wal
      acks recovery =>
      cases record with
      | parallelSafe gen donors => exact .nothing wal
      | prepare xact =>
          exact .record me _
            (fun _ isSame => by cases isSame; exact canRecover.1) wal
      | finish xact commit => exact .record me _ (by simp) wal
  | skipped me running record isAction isRunning isNext canSkip wal acks
      recovery => exact .nothing wal

/-- The order of prepares is fixed once the later one is written. -/
theorem precedes_effect
    {cluster : Cluster n} {action : Action n}
    (enabled : Enabled cluster action)
    {me : Fin n} {xact : Xact n} {first : Record n}
    (written : .prepare xact ∈ cluster.wal me)
    (precedes : Precedes ((effect cluster action).wal me) first
      (.prepare xact)) :
    Precedes (cluster.wal me) first (.prepare xact) := by
  cases effect_written cluster action enabled with
  | nothing wal =>
      rw [wal] at precedes
      exact precedes
  | record other record isNew wal =>
      rw [wal] at precedes
      by_cases same : me = other
      · subst same
        rw [log_wal_self, Precedes.concat] at precedes
        rcases precedes with old | ⟨isRecord, _⟩
        · exact old
        · exact absurd written (isNew xact isRecord.symm)
      · rw [log_wal_ne cluster record same] at precedes
        exact precedes

end Replication
end Multimaster
