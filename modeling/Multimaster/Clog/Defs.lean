import Multimaster.Replication.Invariant

/-!
# Conflicting transactions and their outcomes

The replicating cluster under the rules of `MtmGenerations.tla`: the commit
protocol is replaced by a global list of outcomes, a transaction is committed
only when all members of its generation have acknowledged it, and a node does
not prepare a transaction while a conflicting one is prepared there.
-/

namespace Multimaster
namespace Clog

open Generation Replication

/-- The cluster with the outcomes of transactions, in the order they were
decided. -/
structure Cluster (n : ℕ) extends Replication.Cluster n where
  clog : List (Xact n × Bool)

/-- The transaction is committed. -/
def Cluster.Committed (cluster : Cluster n) (xact : Xact n) : Prop :=
  (xact, true) ∈ cluster.clog

instance (cluster : Cluster n) (xact : Xact n) :
    Decidable (cluster.Committed xact) :=
  inferInstanceAs (Decidable (_ ∈ _))

/-- The actions of the cluster. -/
inductive Action (n : ℕ)
  /-- A step of replication. -/
  | replicate (action : Replication.Action n)
  /-- The outcome of a transaction is determined. -/
  | decide (xact : Xact n) (commit : Bool)

variable (conflicts : Xact n → Xact n → Bool)

/-- No prepared transaction of the node conflicts with this one. -/
def Unblocked (wal : List (Record n)) (xact : Xact n) : Prop :=
  ∀ other ∈ prepares wal, conflicts other xact = true →
    ¬ Pending wal other

instance (wal : List (Record n)) (xact : Xact n) :
    Decidable (Unblocked conflicts wal xact) :=
  inferInstanceAs (Decidable (∀ other ∈ prepares wal, _))

/-- A record can be written: prepares wait for conflicting transactions. -/
def CanWrite (wal : List (Record n)) : Record n → Prop
  | .prepare xact => Unblocked conflicts wal xact
  | _ => True

instance (wal : List (Record n)) (record : Record n) :
    Decidable (CanWrite conflicts wal record) :=
  match record with
  | .prepare xact =>
      inferInstanceAs (Decidable (Unblocked conflicts wal xact))
  | .parallelSafe _ _ => isTrue trivial
  | .finish _ _ => isTrue trivial

/-- What the locks of prepared transactions and the outcomes permit. -/
def Permitted (cluster : Cluster n) : Replication.Action n → Prop
  | .prepare xact =>
      Unblocked conflicts (cluster.wal xact.coordinator) xact
  | .applyPrepare me xact => Unblocked conflicts (cluster.wal me) xact
  | .recover me =>
      ∀ record ∈ nextRecord cluster.toCluster me,
        CanWrite conflicts (cluster.wal me) record
  | .finish _ xact commit => (xact, commit) ∈ cluster.clog
  | _ => True

instance (cluster : Cluster n) (action : Replication.Action n) :
    Decidable (Permitted conflicts cluster action) :=
  match action with
  | .prepare xact =>
      inferInstanceAs (Decidable (Unblocked conflicts _ xact))
  | .applyPrepare _ xact =>
      inferInstanceAs (Decidable (Unblocked conflicts _ xact))
  | .recover me =>
      inferInstanceAs (Decidable
        (∀ record ∈ nextRecord cluster.toCluster me,
          CanWrite conflicts (cluster.wal me) record))
  | .finish _ _ _ => inferInstanceAs (Decidable (_ ∈ _))
  | .election _ => isTrue trivial
  | .crash _ => isTrue trivial
  | .logParallelSafe _ => isTrue trivial
  | .startRecovery _ _ => isTrue trivial
  | .skip _ => isTrue trivial
  | .stopRecovery _ => isTrue trivial

/-- Whether an action can be taken.  An outcome is determined once, after the
transaction was prepared, and it is a commit only if every member of the
generation acknowledged the transaction. -/
def Enabled (cluster : Cluster n) : Action n → Prop
  | .replicate action =>
      Replication.Enabled cluster.toCluster action ∧
        Permitted conflicts cluster action
  | .decide xact commit =>
      xact ∉ cluster.clog.map Prod.fst ∧
        .prepare xact ∈ cluster.wal xact.coordinator ∧
        (commit = true →
          ∀ member ∈ xact.gen.members, (member, xact) ∈ cluster.acks)

instance (cluster : Cluster n) (action : Action n) :
    Decidable (Enabled conflicts cluster action) :=
  match action with
  | .replicate _ => inferInstanceAs (Decidable (_ ∧ _))
  | .decide _ _ => inferInstanceAs (Decidable (_ ∧ _ ∧ _))

/-- The state after an action. -/
def effect (cluster : Cluster n) : Action n → Cluster n
  | .replicate action =>
      { cluster with
        toCluster := Replication.effect cluster.toCluster action }
  | .decide xact commit =>
      { cluster with clog := cluster.clog ++ [(xact, commit)] }

/-- The machine of the cluster. -/
def machine : Machine (Cluster n) (Action n) where
  init := { Replication.initialCluster n with clog := [] }
  Enabled := Enabled conflicts
  effect := effect

instance (cluster : Cluster n) (action : Action n) :
    Decidable ((machine conflicts).Enabled cluster action) :=
  inferInstanceAs (Decidable (Enabled conflicts cluster action))

/-- Runs of the cluster are runs of replication. -/
def replicationProjection :
    Machine.Projection (machine conflicts) (Replication.machine n) where
  state := Cluster.toCluster
  action := fun _ action =>
    match action with
    | .replicate action => some action
    | .decide _ _ => none
  init := rfl
  enabled := by
    intro cluster action lower enabled isLower
    cases action with
    | replicate action =>
        cases isLower
        exact enabled.1
    | decide xact commit => cases isLower
  effect := by
    intro cluster action lower enabled isLower
    cases action with
    | replicate action =>
        cases isLower
        rfl
    | decide xact commit => cases isLower
  stutter := by
    intro cluster action enabled isLower
    cases action with
    | replicate action => cases isLower
    | decide xact commit => rfl

end Clog
end Multimaster
