import Multimaster.Election.Progress

/-!
# Replication of prepared transactions

The write-ahead logs of the nodes over the election protocol: backends prepare
transactions of the current generation, other nodes apply them in normal mode
or read the whole log of a donor in recovery.

A `ParallelSafe` record is written before the first transaction of a generation
a node got online in.  How prepared transactions get finished is left open
here: any prepared transaction may be committed or aborted at any time.
-/

namespace Multimaster
namespace Replication

open Generation

/-- A distributed transaction: its coordinator, the generation stamped on it
and the local number that makes its gid unique. -/
structure Xact (n : ℕ) where
  coordinator : Fin n
  gen : MtmGeneration n
  xid : ℕ
  deriving DecidableEq

/-- The WAL records that matter for replication. -/
inductive Record (n : ℕ)
  | parallelSafe (gen : MtmGeneration n) (donors : NodeMask n)
  | prepare (xact : Xact n)
  /-- `COMMIT PREPARED` or `ABORT PREPARED`. -/
  | finish (xact : Xact n) (commit : Bool)
  deriving DecidableEq

/-- A receiver in recovery mode: the node it reads from and the number of
records it has consumed. -/
structure Recovery (n : ℕ) where
  sender : Fin n
  position : ℕ
  deriving DecidableEq

/-- The state of the replicating cluster. -/
structure Cluster (n : ℕ) where
  election : Election.Cluster n
  wal : Fin n → List (Record n)
  /-- Positive prepare replies, the one of the coordinator to itself
  included. -/
  acks : List (Fin n × Xact n)
  recovery : Fin n → Option (Recovery n)

/-- The generation state of a node. -/
def Cluster.node (cluster : Cluster n) (me : Fin n) : MtmState n :=
  cluster.election.node me

/-- The transaction is prepared in this log and not finished. -/
def Pending (wal : List (Record n)) (xact : Xact n) : Prop :=
  .prepare xact ∈ wal ∧
    .finish xact true ∉ wal ∧ .finish xact false ∉ wal

instance (wal : List (Record n)) (xact : Xact n) :
    Decidable (Pending wal xact) :=
  inferInstanceAs (Decidable (_ ∧ _ ∧ _))

/-- The actions of the replicating cluster. -/
inductive Action (n : ℕ)
  /-- A step of the election protocol alone. -/
  | election (action : Election.Action n)
  /-- Crash and restart; receivers are gone. -/
  | crash (me : Fin n)
  /-- The `ParallelSafe` record of a node that got online. -/
  | logParallelSafe (me : Fin n)
  /-- `PREPARE` by a backend. -/
  | prepare (xact : Xact n)
  /-- `PREPARE` of another node applied in normal mode, and the reply. -/
  | applyPrepare (me : Fin n) (xact : Xact n)
  /-- `FinishPreparedTransaction`. -/
  | finish (me : Fin n) (xact : Xact n) (commit : Bool)
  /-- A receiver starts in recovery mode. -/
  | startRecovery (me sender : Fin n)
  /-- The receiver in recovery mode applies the next record. -/
  | recover (me : Fin n)
  /-- The next record is filtered out: it is already applied, the sender has
  aborted the transaction, or there is nothing to finish. -/
  | skip (me : Fin n)
  /-- The receiver in recovery mode exits. -/
  | stopRecovery (me : Fin n)

/-- The record a receiver in recovery mode is about to consume. -/
def nextRecord (cluster : Cluster n) (me : Fin n) : Option (Record n) :=
  (cluster.recovery me).bind fun recovery =>
    (cluster.wal recovery.sender)[recovery.position]?

/-- The node is online in its current generation and has announced it in its
WAL, so prepares of this generation pass the barrier. -/
def Cluster.Accepting (cluster : Cluster n) (me : Fin n) : Prop :=
  mtmGetCurrentStatusInGen me (cluster.node me).toMtmStateOnDisk = .online ∧
    (cluster.node me).psLogged = true

instance (cluster : Cluster n) (me : Fin n) :
    Decidable (cluster.Accepting me) :=
  inferInstanceAs (Decidable (_ ∧ _))

/-- The steps of the election protocol that do not concern the WAL. -/
def Silent : Election.Action n → Prop
  | .parallelSafe _ _ isRecovery => isRecovery = false
  | .logParallelSafe _ => False
  | .crash _ => False
  | _ => True

instance (action : Election.Action n) : Decidable (Silent action) :=
  match action with
  | .campaign _ _ => isTrue trivial
  | .vote _ _ _ _ => isTrue trivial
  | .gather _ _ => isTrue trivial
  | .count _ => isTrue trivial
  | .finishTour _ => isTrue trivial
  | .learn _ _ _ => isTrue trivial
  | .parallelSafe _ _ _ => inferInstanceAs (Decidable (_ = _))
  | .logParallelSafe _ => isFalse id
  | .crash _ => isFalse id

/-- A record can be applied in recovery mode. -/
def CanRecover (cluster : Cluster n) (me : Fin n) : Record n → Prop
  | .parallelSafe gen _ => gen.num ≤ (cluster.node me).currentGen.num
  | .prepare xact =>
      .prepare xact ∉ cluster.wal me ∧
        xact.gen.num ≤ (cluster.node me).currentGen.num
  | .finish xact _ => Pending (cluster.wal me) xact

instance (cluster : Cluster n) (me : Fin n) (record : Record n) :
    Decidable (CanRecover cluster me record) :=
  match record with
  | .parallelSafe _ _ => inferInstanceAs (Decidable (_ ≤ _))
  | .prepare _ => inferInstanceAs (Decidable (_ ∧ _))
  | .finish _ _ => inferInstanceAs (Decidable (_ ∧ _ ∧ _))

/-- A record is filtered out in recovery mode. -/
def CanSkip (cluster : Cluster n) (me : Fin n) (sender : Fin n) :
    Record n → Prop
  | .parallelSafe _ _ => False
  | .prepare xact =>
      .prepare xact ∈ cluster.wal me ∨
        .finish xact false ∈ cluster.wal sender
  | .finish xact _ => ¬ Pending (cluster.wal me) xact

instance (cluster : Cluster n) (me sender : Fin n) (record : Record n) :
    Decidable (CanSkip cluster me sender record) :=
  match record with
  | .parallelSafe _ _ => isFalse id
  | .prepare _ => inferInstanceAs (Decidable (_ ∨ _))
  | .finish _ _ => inferInstanceAs (Decidable (¬ _))

/-- Whether an action can be taken. -/
def Enabled (cluster : Cluster n) : Action n → Prop
  | .election action =>
      Silent action ∧ Election.Enabled cluster.election action
  | .crash _ => True
  | .logParallelSafe me =>
      Election.Enabled cluster.election (.logParallelSafe me)
  | .prepare xact =>
      cluster.Accepting xact.coordinator ∧
        xact.gen = (cluster.node xact.coordinator).currentGen ∧
        .prepare xact ∉ cluster.wal xact.coordinator
  | .applyPrepare me xact =>
      cluster.recovery me = none ∧ cluster.Accepting me ∧
        xact.gen.num = (cluster.node me).currentGen.num ∧
        .prepare xact ∈ cluster.wal xact.coordinator ∧
        .prepare xact ∉ cluster.wal me
  | .finish me xact _ => Pending (cluster.wal me) xact
  | .startRecovery me sender =>
      cluster.recovery me = none ∧ me ≠ sender ∧
        (cluster.node me).receiveMode = .donor sender
  | .recover me =>
      ∃ record ∈ nextRecord cluster me, CanRecover cluster me record
  | .skip me =>
      ∃ recovery ∈ cluster.recovery me,
        ∃ record ∈ nextRecord cluster me,
          CanSkip cluster me recovery.sender record
  | .stopRecovery _ => True

instance (cluster : Cluster n) (action : Action n) :
    Decidable (Enabled cluster action) :=
  match action with
  | .election _ => inferInstanceAs (Decidable (_ ∧ _))
  | .crash _ => isTrue trivial
  | .logParallelSafe me =>
      inferInstanceAs (Decidable (Election.Enabled _ (.logParallelSafe me)))
  | .prepare _ => inferInstanceAs (Decidable (_ ∧ _ ∧ _))
  | .applyPrepare _ _ => inferInstanceAs (Decidable (_ ∧ _ ∧ _ ∧ _ ∧ _))
  | .finish _ _ _ => inferInstanceAs (Decidable (Pending _ _))
  | .startRecovery _ _ => inferInstanceAs (Decidable (_ ∧ _ ∧ _))
  | .recover me =>
      inferInstanceAs (Decidable (∃ record ∈ nextRecord cluster me,
        CanRecover cluster me record))
  | .skip me =>
      inferInstanceAs (Decidable (∃ recovery ∈ cluster.recovery me,
        ∃ record ∈ nextRecord cluster me,
          CanSkip cluster me recovery.sender record))
  | .stopRecovery _ => isTrue trivial

/-- Append a record to the WAL of a node. -/
def Cluster.log
    (cluster : Cluster n) (me : Fin n) (record : Record n) : Cluster n :=
  { cluster with
    wal := Function.update cluster.wal me (cluster.wal me ++ [record]) }

/-- Count one more record as consumed. -/
def Cluster.consume (cluster : Cluster n) (me : Fin n) : Cluster n :=
  { cluster with
    recovery := Function.update cluster.recovery me
      ((cluster.recovery me).map fun recovery =>
        { recovery with position := recovery.position + 1 }) }

/-- Applying a record in recovery mode. -/
def applyRecord
    (cluster : Cluster n) (me : Fin n) : Record n → Cluster n
  | .parallelSafe gen _ =>
      { cluster with
        election :=
          Election.effect cluster.election (.parallelSafe me gen true) }
  | .prepare xact => cluster.log me (.prepare xact)
  | .finish xact commit => cluster.log me (.finish xact commit)

/-- The state after an action. -/
def effect (cluster : Cluster n) : Action n → Cluster n
  | .election action =>
      { cluster with election := Election.effect cluster.election action }
  | .crash me =>
      { cluster with
        election := Election.effect cluster.election (.crash me)
        recovery := Function.update cluster.recovery me none }
  | .logParallelSafe me =>
      { cluster.log me (.parallelSafe (cluster.node me).currentGen
          (cluster.node me).donors) with
        election := Election.effect cluster.election (.logParallelSafe me) }
  | .prepare xact =>
      { cluster.log xact.coordinator (.prepare xact) with
        acks := (xact.coordinator, xact) :: cluster.acks }
  | .applyPrepare me xact =>
      { cluster.log me (.prepare xact) with
        acks := (me, xact) :: cluster.acks }
  | .finish me xact commit => cluster.log me (.finish xact commit)
  | .startRecovery me sender =>
      { cluster with
        recovery := Function.update cluster.recovery me
          (some { sender := sender, position := 0 }) }
  | .recover me =>
      match nextRecord cluster me with
      | some record => (applyRecord cluster me record).consume me
      | none => cluster
  | .skip me => cluster.consume me
  | .stopRecovery me =>
      { cluster with recovery := Function.update cluster.recovery me none }

/-- A new cluster with empty logs. -/
def initialCluster (n : ℕ) : Cluster n where
  election := Election.initialCluster n
  wal := fun _ => []
  acks := []
  recovery := fun _ => none

/-- The machine of the replicating cluster. -/
def machine (n : ℕ) : Machine (Cluster n) (Action n) where
  init := initialCluster n
  Enabled := Enabled
  effect := effect

instance (cluster : Cluster n) (action : Action n) :
    Decidable ((machine n).Enabled cluster action) :=
  inferInstanceAs (Decidable (Enabled cluster action))

/-! ## The election protocol inside -/

/-- The election step of an action, if it has one. -/
def electionAction (cluster : Cluster n) :
    Action n → Option (Election.Action n)
  | .election action => some action
  | .crash me => some (.crash me)
  | .logParallelSafe me => some (.logParallelSafe me)
  | .recover me =>
      match nextRecord cluster me with
      | some (.parallelSafe gen _) => some (.parallelSafe me gen true)
      | _ => none
  | _ => none

/-- Runs of the replicating cluster are runs of the election protocol. -/
def electionProjection (n : ℕ) :
    Machine.Projection (machine n) (Election.machine n) where
  state := Cluster.election
  action := electionAction
  init := rfl
  enabled := by
    intro cluster action lower enabled isLower
    cases action with
    | election action =>
        cases isLower
        exact enabled.2
    | crash me =>
        cases isLower
        exact trivial
    | logParallelSafe me =>
        cases isLower
        exact enabled
    | recover me =>
        simp only [electionAction] at isLower
        split at isLower
        · cases isLower
          exact trivial
        · cases isLower
    | prepare xact => cases isLower
    | applyPrepare me xact => cases isLower
    | finish me xact commit => cases isLower
    | startRecovery me sender => cases isLower
    | skip me => cases isLower
    | stopRecovery me => cases isLower
  effect := by
    intro cluster action lower enabled isLower
    cases action with
    | election action =>
        cases isLower
        rfl
    | crash me =>
        cases isLower
        rfl
    | logParallelSafe me =>
        cases isLower
        rfl
    | recover me =>
        simp only [electionAction] at isLower
        split at isLower
        · next gen donors isNext =>
            cases isLower
            change (effect cluster (.recover me)).election = _
            simp only [effect, isNext]
            rfl
        · cases isLower
    | prepare xact => cases isLower
    | applyPrepare me xact => cases isLower
    | finish me xact commit => cases isLower
    | startRecovery me sender => cases isLower
    | skip me => cases isLower
    | stopRecovery me => cases isLower
  stutter := by
    intro cluster action enabled isLower
    cases action with
    | election action => cases isLower
    | crash me => cases isLower
    | logParallelSafe me => cases isLower
    | recover me =>
        change (effect cluster (.recover me)).election = _
        simp only [electionAction] at isLower
        cases isNext : nextRecord cluster me with
        | none => simp only [effect, isNext]
        | some record =>
            simp only [effect, isNext]
            cases record with
            | parallelSafe gen donors =>
                rw [isNext] at isLower
                cases isLower
            | prepare xact => rfl
            | finish xact commit => rfl
    | prepare xact => rfl
    | applyPrepare me xact => rfl
    | finish me xact commit => rfl
    | startRecovery me sender => rfl
    | skip me => rfl
    | stopRecovery me => rfl

/-- The generations of a cluster that replicates are those of an election. -/
theorem election_reachable
    {allowed : Cluster n → Action n → Prop} {cluster : Cluster n}
    (reachable : (machine n).Reachable allowed cluster) :
    (Election.machine n).Reachable Machine.Always cluster.election :=
  (electionProjection n).reachable reachable

end Replication
end Multimaster
