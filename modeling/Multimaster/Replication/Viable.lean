import Multimaster.Lib.ListOrder
import Multimaster.Replication.Defs

/-!
# Transactions that can still be committed

A transaction is viable as long as every member of its generation has
acknowledged it or may still do so, and no node has aborted it.  Viability can
only be lost, which is what makes it usable in invariants: whatever is
committed at some moment was viable at every moment before.
-/

namespace Multimaster
namespace Replication

open Generation

/-- The node may still acknowledge transactions of generation `num`: it has not
passed the generation, and it is online there or has not promised to stay away
from it. -/
def CanAck (state : MtmState n) (num : ℕ) : Prop :=
  state.currentGen.num ≤ num ∧
    (state.lastOnlineIn = num ∨ state.lastVote.num ≤ num)

/-- The node has acknowledged the transaction or may still do so. -/
def Cluster.Ackable
    (cluster : Cluster n) (me : Fin n) (xact : Xact n) : Prop :=
  (me, xact) ∈ cluster.acks ∨ CanAck (cluster.node me) xact.gen.num

/-- The transaction may have been committed or may be committed later. -/
structure Viable (cluster : Cluster n) (xact : Xact n) : Prop where
  majority : IsMajority xact.gen.members
  /-- The generation stamped on the transaction is the only one of its
  number. -/
  generation : ∀ pair ∈ cluster.election.announced,
    pair.1.num = xact.gen.num → pair.1 = xact.gen
  ackable : ∀ member ∈ xact.gen.members, cluster.Ackable member xact
  notAborted : ∀ me, .finish xact false ∉ cluster.wal me

theorem finished_of_not_pending
    {wal : List (Record n)} {xact : Xact n}
    (isPrepared : .prepare xact ∈ wal) (notPending : ¬ Pending wal xact) :
    ∃ commit, .finish xact commit ∈ wal := by
  by_contra unfinished
  rw [not_exists] at unfinished
  exact notPending ⟨isPrepared, unfinished true, unfinished false⟩

/-- Two states of a run, the second one not before the first. -/
structure Grows (before after : Cluster n) : Prop where
  announced : before.election.announced ⊆ after.election.announced
  wal : ∀ me, before.wal me <+: after.wal me
  acks : before.acks ⊆ after.acks
  ackable : ∀ me xact, after.Ackable me xact → before.Ackable me xact
  online : ∀ me, before.election.online me ⊆ after.election.online me

theorem Grows.refl (cluster : Cluster n) : Grows cluster cluster :=
  ⟨fun _ => id, fun _ => List.prefix_refl _, fun _ => id,
    fun _ _ => id, fun _ _ => id⟩

theorem Grows.trans
    {first middle last : Cluster n}
    (left : Grows first middle) (right : Grows middle last) :
    Grows first last where
  announced := List.Subset.trans left.announced right.announced
  wal := fun me => (left.wal me).trans (right.wal me)
  acks := List.Subset.trans left.acks right.acks
  ackable := fun me xact later =>
    left.ackable me xact (right.ackable me xact later)
  online := fun me => List.Subset.trans (left.online me) (right.online me)

/-- Viability is only lost. -/
theorem Viable.of_grows
    {before after : Cluster n} {xact : Xact n}
    (viable : Viable after xact) (grows : Grows before after) :
    Viable before xact where
  majority := viable.majority
  generation := fun pair known =>
    viable.generation pair (grows.announced known)
  ackable := fun member isMember =>
    grows.ackable member xact (viable.ackable member isMember)
  notAborted := fun me aborted =>
    viable.notAborted me ((grows.wal me).subset aborted)

/-! ## Growth in one step -/

theorem canAck_of_advance
    {announced : List (MtmGeneration n × NodeMask n)} {me : Fin n}
    {action : Election.Action n} {before after : MtmState n} {num : ℕ}
    (advance : Election.Advance announced me action before after)
    (later : CanAck after num) :
    CanAck before num := by
  have currentGen := advance.currentGen_le
  have lastVote := advance.lastVote_le
  obtain ⟨reached, online | unpromised⟩ := later
  · refine ⟨by omega, ?_⟩
    rcases advance.unpromised with same | allowed
    · exact Or.inl (same ▸ online)
    · exact Or.inr (by omega)
  · exact ⟨by omega, Or.inr (by omega)⟩

/-- A step of the election protocol. -/
theorem grows_election
    (cluster : Cluster n) (action : Election.Action n)
    (enabled : Election.Enabled cluster.election action)
    (recovery : Fin n → Option (Recovery n)) :
    Grows cluster
      { cluster with
        election := Election.effect cluster.election action
        recovery := recovery } where
  announced := (Election.extends_effect cluster.election action).announced
  wal := fun _ => List.prefix_refl _
  acks := fun _ => id
  ackable := by
    rintro me xact (acked | later)
    · exact Or.inl acked
    · exact Or.inr (canAck_of_advance
        (Election.advance_effect cluster.election action enabled me) later)
  online := fun me num member =>
    Election.mem_effect_online.mpr (Or.inl member)

theorem prefix_log
    (cluster : Cluster n) (me : Fin n) (record : Record n) (other : Fin n) :
    cluster.wal other <+: (cluster.log me record).wal other := by
  by_cases same : other = me
  · subst same
    simp [Cluster.log]
  · simp [Cluster.log, same]

@[simp] theorem log_wal_self
    (cluster : Cluster n) (me : Fin n) (record : Record n) :
    (cluster.log me record).wal me = cluster.wal me ++ [record] := by
  simp [Cluster.log]

theorem log_wal_ne
    (cluster : Cluster n) (record : Record n)
    {me other : Fin n} (different : other ≠ me) :
    (cluster.log me record).wal other = cluster.wal other := by
  simp [Cluster.log, different]

/-- A record appended to a log, together with replies of nodes that may give
them. -/
theorem grows_log
    (cluster : Cluster n) (me : Fin n) (record : Record n)
    (acks : List (Fin n × Xact n))
    (more : cluster.acks ⊆ acks)
    (allowed : ∀ ack ∈ acks, cluster.Ackable ack.1 ack.2) :
    Grows cluster { cluster.log me record with acks := acks } where
  announced := fun _ => id
  wal := prefix_log cluster me record
  acks := more
  ackable := by
    rintro other xact (acked | later)
    · exact allowed _ acked
    · exact Or.inr later
  online := fun _ _ => id

theorem grows_recovery
    (cluster : Cluster n) (recovery : Fin n → Option (Recovery n)) :
    Grows cluster { cluster with recovery := recovery } :=
  ⟨fun _ => id, fun _ => List.prefix_refl _, fun _ => id,
    fun _ _ => id, fun _ _ => id⟩

/-- An accepting node may acknowledge transactions of its generation. -/
theorem Cluster.Accepting.canAck
    {cluster : Cluster n} {me : Fin n}
    (accepting : cluster.Accepting me)
    {num : ℕ} (current : num = (cluster.node me).currentGen.num) :
    CanAck (cluster.node me) num := by
  have online := mtmGetCurrentStatusInGen_eq_online.mp accepting.1
  exact ⟨current.ge, Or.inl (online.trans current.symm)⟩

/-- A reply of an accepting node to a transaction of its generation. -/
theorem grows_log_ack
    (cluster : Cluster n) (me : Fin n) (xact : Xact n)
    (accepting : cluster.Accepting me)
    (current : xact.gen.num = (cluster.node me).currentGen.num) :
    Grows cluster
      { cluster.log me (.prepare xact) with
        acks := (me, xact) :: cluster.acks } := by
  apply grows_log
  · exact List.subset_cons_self _ _
  · intro ack isAck
    rcases List.mem_cons.mp isAck with isNew | isOld
    · rw [isNew]
      exact Or.inr (accepting.canAck current)
    · exact Or.inl isOld

theorem grows_applyRecord
    (cluster : Cluster n) (me : Fin n) (record : Record n) :
    Grows cluster (applyRecord cluster me record) := by
  have logged (record : Record n) : Grows cluster (cluster.log me record) :=
    grows_log cluster me record cluster.acks (fun _ => id)
      (fun _ => Or.inl)
  cases record with
  | parallelSafe gen donors =>
      exact grows_election cluster (.parallelSafe me gen true) trivial _
  | prepare xact => exact logged _
  | finish xact commit => exact logged _

/-- Every step grows the cluster. -/
theorem grows_effect
    (cluster : Cluster n) (action : Action n)
    (enabled : Enabled cluster action) :
    Grows cluster (effect cluster action) := by
  have logged (me : Fin n) (record : Record n) :
      Grows cluster (cluster.log me record) :=
    grows_log cluster me record cluster.acks (fun _ => id)
      (fun _ => Or.inl)
  cases action with
  | election action => exact grows_election cluster action enabled.2 _
  | crash me => exact grows_election cluster (.crash me) trivial _
  | logParallelSafe me =>
      exact (logged me _).trans
        (grows_election (cluster.log me _) (.logParallelSafe me) enabled _)
  | prepare xact =>
      exact grows_log_ack cluster _ xact enabled.1 (by rw [enabled.2.1])
  | applyPrepare me xact =>
      exact grows_log_ack cluster me xact enabled.2.1 enabled.2.2.1
  | finish me xact commit => exact logged me _
  | startRecovery me sender => exact grows_recovery cluster _
  | recover me =>
      simp only [effect]
      split
      · next record isNext =>
          exact (grows_applyRecord cluster me record).trans
            (grows_recovery _ _)
      · exact Grows.refl cluster
  | skip me => exact grows_recovery cluster _
  | stopRecovery me => exact grows_recovery cluster _

/-- Every run grows the cluster. -/
theorem grows_of_run
    {allowed : Cluster n → Action n → Prop} {first last : Cluster n}
    (run : (machine n).Run allowed first last) :
    Grows first last := by
  induction run with
  | refl => exact Grows.refl _
  | step prior enabled permitted inductionHypothesis =>
      exact inductionHypothesis.trans (grows_effect _ _ enabled)

end Replication
end Multimaster
