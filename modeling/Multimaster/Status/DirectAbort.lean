import Multimaster.Clog.Order
import Multimaster.Status.Replier

/-!
# The direct abort

A replier without any trace of a transaction answers with an abort when it is
online in a later generation: every transaction that can be committed would be
in its WAL.  The argument needs the WAL and the table of prepared transactions
to be looked at together, but a batch looks at the WAL once and at the table
afterwards.  A transaction prepared long ago, with its `PREPARE` recycled, may
be committed in between, and then leaves no trace in either.
-/

namespace Multimaster
namespace Status

open Generation Replication

/-- An answer `GTXAborted` given without a trace of the transaction. -/
structure DirectAbort (n : ℕ) where
  responder : Fin n
  request : StatusRequest n
  /-- The WAL of the responder confirmed by the requester at that time. -/
  streamed : List (Record n)

/-- The cluster with its repliers. -/
structure Cluster (n : ℕ) extends toClog : Clog.Cluster n where
  retention : Retention n
  replier : Fin n → Replier n
  requests : List (StatusRequest n)
  directAborts : List (DirectAbort n)

/-- The actions of the cluster. -/
inductive Action (n : ℕ)
  /-- A step of replication or an outcome. -/
  | clog (action : Clog.Action n)
  | confirm (sender receiver : Fin n) (position : ℕ)
  | recycle (me : Fin n) (position : ℕ)
  /-- `scatter_status_requests` for one transaction. -/
  | request (request : StatusRequest n)
  /-- A step of the replier of a node. -/
  | reply (me : Fin n) (action : ReplierAction n)

variable (conflicts : Xact n → Xact n → Bool)

/-- A batch consists of requests of other nodes. -/
def Delivered
    (requests : List (StatusRequest n)) (me : Fin n) :
    ReplierAction n → Prop
  | .start entries =>
      ∀ entry ∈ entries, entry ∈ requests ∧ entry.requester ≠ me
  | _ => True

instance (requests : List (StatusRequest n)) (me : Fin n)
    (action : ReplierAction n) :
    Decidable (Delivered requests me action) :=
  match action with
  | .start entries =>
      inferInstanceAs (Decidable (∀ entry ∈ entries, _))
  | .pick _ => isTrue trivial
  | .read => isTrue trivial
  | .scan => isTrue trivial
  | .conclude => isTrue trivial

/-- Whether an action can be taken. -/
def Enabled (cluster : Cluster n) : Action n → Prop
  | .clog action => Clog.Enabled conflicts cluster.toClog action
  | .confirm sender receiver position =>
      cluster.retention.CanConfirm cluster.toCluster sender
        receiver position
  | .recycle me position => cluster.retention.CanRecycle me position
  | .request request =>
      Pending (cluster.wal request.requester) request.xact
  | .reply me action =>
      (cluster.replier me).Enabled action ∧
        Delivered cluster.requests me action

instance (cluster : Cluster n) (action : Action n) :
    Decidable (Enabled conflicts cluster action) :=
  match action with
  | .clog action =>
      inferInstanceAs (Decidable (Clog.Enabled conflicts _ action))
  | .confirm sender receiver position =>
      inferInstanceAs (Decidable (cluster.retention.CanConfirm
        cluster.toCluster sender receiver position))
  | .recycle me position =>
      inferInstanceAs (Decidable (cluster.retention.CanRecycle me position))
  | .request _ => inferInstanceAs (Decidable (Pending _ _))
  | .reply _ _ => inferInstanceAs (Decidable (_ ∧ _))

/-- The repliers after a step of replication: a crash ends the batch. -/
def repliersAfter
    (replier : Fin n → Replier n) : Clog.Action n → Fin n → Replier n
  | .replicate (.crash me) => Function.update replier me (Replier.idle n)
  | _ => replier

/-- The answers of a replier after a step of it. -/
def directAbortsAfter
    (cluster : Cluster n) (me : Fin n) :
    ReplierAction n → List (DirectAbort n)
  | .conclude =>
      match (cluster.replier me).concluding with
      | some (request, scan) =>
          if verdict scan request.xact
              (decide (Pending (cluster.wal me) request.xact)) =
                .directAbort then
            { responder := me
              request := request
              streamed := (cluster.wal me).take
                (cluster.retention.confirmed me request.requester) } ::
              cluster.directAborts
          else cluster.directAborts
      | none => cluster.directAborts
  | _ => cluster.directAborts

/-- The state after an action. -/
def effect (cluster : Cluster n) : Action n → Cluster n
  | .clog action =>
      { cluster with
        toClog := Clog.effect cluster.toClog action
        replier := repliersAfter cluster.replier action }
  | .confirm sender receiver position =>
      { cluster with
        retention := cluster.retention.confirm sender receiver position }
  | .recycle me position =>
      { cluster with retention := cluster.retention.recycle me position }
  | .request request =>
      { cluster with requests := request :: cluster.requests }
  | .reply me action =>
      { cluster with
        replier := Function.update cluster.replier me
          ((cluster.replier me).step (cluster.node me).lastOnlineIn
            (cluster.wal me) (cluster.retention.recycled me) action)
        directAborts := directAbortsAfter cluster me action }

/-- The machine of the cluster with its repliers. -/
def machine : Machine (Cluster n) (Action n) where
  init :=
    { (Clog.machine conflicts).init with
      retention := Retention.initial n
      replier := fun _ => Replier.idle n
      requests := []
      directAborts := [] }
  Enabled := Enabled conflicts
  effect := effect

instance (cluster : Cluster n) (action : Action n) :
    Decidable ((machine conflicts).Enabled cluster action) :=
  inferInstanceAs (Decidable (Enabled conflicts cluster action))

/-- A transaction was prepared at the time of the scan, its `PREPARE` was
already recycled, and it is committed by now. -/
def CommittedSinceScan
    (wal : List (Record n)) (scan : Scan n) (xact : Xact n) : Prop :=
  Pending scan.wal xact ∧ .prepare xact ∉ scan.retained ∧
    .finish xact true ∈ wal

instance (wal : List (Record n)) (scan : Scan n) (xact : Xact n) :
    Decidable (CommittedSinceScan wal scan xact) :=
  inferInstanceAs (Decidable (_ ∧ _ ∧ _))

/-- The side condition on runs: no request is concluded for a transaction
committed since the scan. -/
def ScansUpToDate (cluster : Cluster n) : Action n → Prop
  | .reply me .conclude =>
      ∀ pair ∈ (cluster.replier me).concluding,
        ¬ CommittedSinceScan (cluster.wal me) pair.2 pair.1.xact
  | _ => True

instance (cluster : Cluster n) (action : Action n) :
    Decidable (ScansUpToDate cluster action) :=
  match action with
  | .reply me .conclude =>
      inferInstanceAs (Decidable
        (∀ pair ∈ (cluster.replier me).concluding, _))
  | .reply _ (.start _) => isTrue trivial
  | .reply _ (.pick _) => isTrue trivial
  | .reply _ .read => isTrue trivial
  | .reply _ .scan => isTrue trivial
  | .clog _ => isTrue trivial
  | .confirm _ _ _ => isTrue trivial
  | .recycle _ _ => isTrue trivial
  | .request _ => isTrue trivial

/-! ## Safety -/

variable {conflicts}

/-- What holds of a direct abort: the commit was streamed to the requester, or
there is none and will be none. -/
def AnswerOk (cluster : Cluster n) (answer : DirectAbort n) : Prop :=
  .finish answer.request.xact true ∈ answer.streamed ∨
    ¬ Viable cluster.toCluster answer.request.xact

/-- The invariant of the cluster with its repliers. -/
structure Invariant
    (conflicts : Xact n → Xact n → Bool) (cluster : Cluster n) : Prop where
  clog : Clog.Invariant conflicts cluster.toClog
  retention : RetentionOk cluster.retention
  replier : ∀ me, ReplierOk cluster.toCluster cluster.retention me
    (cluster.replier me)
  requests : ∀ me, (cluster.replier me).All fun entry =>
    entry.requester ≠ me
  answers : ∀ answer ∈ cluster.directAborts, AnswerOk cluster answer

namespace Invariant

variable {cluster : Cluster n}

theorem grows_clog
    {action : Clog.Action n}
    (enabled : Clog.Enabled conflicts cluster.toClog action) :
    Grows cluster.toCluster
      (Clog.effect cluster.toClog action).toCluster := by
  cases action with
  | replicate action => exact grows_effect _ action enabled.1
  | decide xact commit => exact Grows.refl _

/-- The repliers after a step of replication are as before or idle. -/
theorem repliersAfter_cases
    (replier : Fin n → Replier n) (action : Clog.Action n) (me : Fin n) :
    repliersAfter replier action me = replier me ∨
      repliersAfter replier action me = Replier.idle n := by
  cases action with
  | decide xact commit => exact Or.inl rfl
  | replicate action =>
      cases action with
      | crash crashed =>
          by_cases same : me = crashed
          · subst same
            exact Or.inr (Function.update_self _ _ _)
          · exact Or.inl (Function.update_of_ne same _ _)
      | election action => exact Or.inl rfl
      | logParallelSafe other => exact Or.inl rfl
      | prepare xact => exact Or.inl rfl
      | applyPrepare other xact => exact Or.inl rfl
      | finish other xact commit => exact Or.inl rfl
      | startRecovery other sender => exact Or.inl rfl
      | recover other => exact Or.inl rfl
      | skip other => exact Or.inl rfl
      | stopRecovery other => exact Or.inl rfl

theorem clogStep
    (invariant : Invariant conflicts cluster)
    {action : Clog.Action n}
    (enabled : Clog.Enabled conflicts cluster.toClog action) :
    Invariant conflicts (effect cluster (.clog action)) := by
  have grows := grows_clog enabled
  exact {
    clog := invariant.clog.step action enabled
    retention := invariant.retention
    replier := by
      intro me
      change ReplierOk _ _ me (repliersAfter cluster.replier action me)
      rcases repliersAfter_cases cluster.replier action me with same | idle
      · rw [same]
        exact (invariant.replier me).mono grows (le_refl _)
      · rw [idle]
        exact replierOk_idle _ _ me
    requests := by
      intro me
      change (repliersAfter cluster.replier action me).All _
      rcases repliersAfter_cases cluster.replier action me with same | idle
      · rw [same]
        exact invariant.requests me
      · rw [idle]
        exact Replier.all_idle _
    answers := by
      intro answer isAnswer
      exact (invariant.answers answer isAnswer).imp_right
        fun notViable viable => notViable (viable.of_grows grows) }

/-- A direct abort is safe unless the transaction was committed since the
scan. -/
theorem answerOk
    (invariant : Invariant conflicts cluster)
    {me : Fin n} {request : StatusRequest n} {scan : Scan n}
    (concluding : (cluster.replier me).concluding = some (request, scan))
    (isDirect : verdict scan request.xact
      (decide (Pending (cluster.wal me) request.xact)) = .directAbort)
    (upToDate : ¬ CommittedSinceScan (cluster.wal me) scan request.xact) :
    AnswerOk cluster
      { responder := me
        request := request
        streamed := (cluster.wal me).take
          (cluster.retention.confirmed me request.requester) } := by
  obtain ⟨isHandled, isScan⟩ := Replier.concluding_eq_some.mp concluding
  have scanOk := (invariant.replier me).scan scan isScan
  have elsewhere := (invariant.requests me).2 request isHandled
  rw [verdict_eq_directAbort] at isDirect
  obtain ⟨noOutcome, notPending, unseen, earlier⟩ := isDirect
  rw [decide_eq_false_iff_not] at notPending
  by_cases viable : Viable cluster.toCluster request.xact
  · left
    have written := scanOk.viable request.xact viable earlier
    -- a viable transaction that is finished here is committed
    have isCommit {commit : Bool}
        (isFinished : .finish request.xact commit ∈ cluster.wal me) :
        commit = true := by
      cases commit with
      | true => rfl
      | false => exact absurd isFinished (viable.notAborted me)
    have wasPending : ¬ Pending scan.wal request.xact := by
      intro pending
      obtain ⟨commit, isFinished⟩ := finished_of_not_pending
        (scanOk.past.subset written) notPending
      rw [isCommit isFinished] at isFinished
      exact upToDate ⟨pending, unseen, isFinished⟩
    obtain ⟨commit, isFinished⟩ :=
      finished_of_not_pending written wasPending
    rw [isCommit (scanOk.past.subset isFinished)] at isFinished
    have recycled := Scan.mem_take_of_notMem isFinished
      (Scan.outcome_eq_none noOutcome true)
    have confirmed := le_trans scanOk.recycled
      (invariant.retention me request.requester elsewhere)
    have isPrefix : scan.wal.take scan.recycled <+:
        (cluster.wal me).take
          (cluster.retention.confirmed me request.requester) := by
      rw [List.prefix_take_iff]
      refine ⟨(List.take_prefix _ _).trans scanOk.past, ?_⟩
      exact le_trans (List.length_take_le _ _) confirmed
    exact isPrefix.subset recycled
  · exact Or.inr viable

/-- A step of a replier. -/
theorem replyStep
    (invariant : Invariant conflicts cluster)
    {me : Fin n} {action : ReplierAction n}
    (delivered : Delivered cluster.requests me action)
    (enabled : (cluster.replier me).Enabled action)
    (upToDate : ScansUpToDate cluster (.reply me action)) :
    Invariant conflicts (effect cluster (.reply me action)) where
  clog := invariant.clog
  retention := invariant.retention
  replier := by
    intro other
    by_cases same : other = me
    · subst same
      simp only [effect, Function.update_self]
      exact (invariant.replier other).step invariant.clog.replication action
    · simp only [effect, Function.update_of_ne same]
      exact invariant.replier other
  requests := by
    intro other
    by_cases same : other = me
    · subst same
      simp only [effect, Function.update_self]
      refine (invariant.requests other).step enabled ?_
      rintro entries rfl entry isEntry
      exact (delivered entry isEntry).2
    · simp only [effect, Function.update_of_ne same]
      exact invariant.requests other
  answers := by
    intro answer isAnswer
    change answer ∈ directAbortsAfter cluster me action at isAnswer
    change AnswerOk cluster answer
    cases action with
    | conclude =>
        simp only [directAbortsAfter] at isAnswer
        split at isAnswer
        · next request scan concluding =>
            split at isAnswer
            · next isDirect =>
                rcases List.mem_cons.mp isAnswer with isNew | isOld
                · rw [isNew]
                  exact invariant.answerOk concluding isDirect
                    (upToDate _ concluding)
                · exact invariant.answers answer isOld
            · exact invariant.answers answer isAnswer
        · exact invariant.answers answer isAnswer
    | start entries => exact invariant.answers answer isAnswer
    | pick picked => exact invariant.answers answer isAnswer
    | read => exact invariant.answers answer isAnswer
    | scan => exact invariant.answers answer isAnswer

/-- Every permitted action keeps the invariant. -/
theorem step
    (invariant : Invariant conflicts cluster)
    (action : Action n)
    (enabled : Enabled conflicts cluster action)
    (upToDate : ScansUpToDate cluster action) :
    Invariant conflicts (effect cluster action) := by
  cases action with
  | clog action => exact invariant.clogStep enabled
  | confirm sender receiver position =>
      exact {
        clog := invariant.clog
        retention := invariant.retention.confirm enabled
        replier := fun me =>
          (invariant.replier me).mono (Grows.refl _) (le_refl _)
        requests := invariant.requests
        answers := invariant.answers }
  | recycle me position =>
      exact {
        clog := invariant.clog
        retention := invariant.retention.recycle enabled
        replier := by
          intro other
          apply (invariant.replier other).mono (Grows.refl _)
          simp only [effect, Retention.recycle, Function.update_apply]
          split
          · next same =>
              subst same
              exact enabled.1
          · exact le_refl _
        requests := invariant.requests
        answers := invariant.answers }
  | request request =>
      exact ⟨invariant.clog, invariant.retention, invariant.replier,
        invariant.requests, invariant.answers⟩
  | reply me action =>
      exact invariant.replyStep enabled.2 enabled.1 upToDate

end Invariant

theorem invariant_init (conflicts : Xact n → Xact n → Bool) :
    Invariant conflicts (machine conflicts).init where
  clog := Clog.invariant_initialCluster n conflicts
  retention := fun _ _ _ => le_refl _
  replier := fun me => replierOk_idle _ _ me
  requests := fun _ => Replier.all_idle _
  answers := fun _ isAnswer => by cases isAnswer

/-- In a run in which no request is concluded for a transaction committed since
the scan, every direct abort is safe: the commit of the responder had been
streamed to the requester, or no node has committed the transaction, at any
time after the answer. -/
theorem direct_abort_safe
    {cluster : Cluster n}
    (reachable : (machine conflicts).Reachable ScansUpToDate cluster) :
    ∀ answer ∈ cluster.directAborts,
      .finish answer.request.xact true ∈ answer.streamed ∨
        (¬ cluster.Committed answer.request.xact ∧
          ∀ me, .finish answer.request.xact true ∉ cluster.wal me) := by
  have invariant : Invariant conflicts cluster := by
    refine Machine.Reachable.invariant (invariant_init conflicts) ?_
      reachable
    intro current action invariant enabled upToDate
    exact invariant.step action enabled upToDate
  intro answer isAnswer
  rcases invariant.answers answer isAnswer with streamed | notViable
  · exact Or.inl streamed
  · have uncommitted : ¬ cluster.Committed answer.request.xact :=
      fun committed => notViable (invariant.clog.viable committed)
    exact Or.inr ⟨uncommitted, fun me isFinished =>
      uncommitted (invariant.clog.finished me _ true isFinished)⟩

/-! ## Runs with direct aborts -/

/-- A transaction that only its coordinator has prepared. -/
def lonelyXact : Xact 3 where
  coordinator := 2
  gen := initialGen 3
  xid := 7

/-- A request of node 2. -/
def requestOfTwo (xact : Xact 3) : StatusRequest 3 where
  requester := 2
  term := { ballot := 2, nodeId := 3 }
  xact := xact

/-- No transactions conflict. -/
def noConflict (_ _ : Xact 3) : Bool := false

/-- One transaction is prepared everywhere and committed by its coordinator,
another one is prepared by node 2 alone.  Node 1 recycles the first `PREPARE`
and gets online in generation 2, without node 2, which asks it about both.
Node 1 answers about the second one after a scan of its WAL. -/
def scanForAnother : List (Action 3) :=
  [Action.clog (.replicate (.logParallelSafe 0)),
    .clog (.replicate (.logParallelSafe 1)),
    .clog (.replicate (.logParallelSafe 2)),
    .clog (.replicate (.prepare Clog.firstXact)),
    .clog (.replicate (.applyPrepare 1 Clog.firstXact)),
    .clog (.replicate (.applyPrepare 2 Clog.firstXact)),
    .clog (.decide Clog.firstXact true),
    .clog (.replicate (.finish 0 Clog.firstXact true)),
    .clog (.replicate (.prepare lonelyXact)),
    .confirm 1 0 2, .confirm 1 2 2, .recycle 1 2] ++
  (Election.excludeNodeTwo.map fun action =>
    Action.clog (.replicate (.election action))) ++
  [Action.request (requestOfTwo lonelyXact),
    .request (requestOfTwo Clog.firstXact),
    .reply 1 (.start [requestOfTwo lonelyXact,
      requestOfTwo Clog.firstXact]),
    .reply 1 (.pick (requestOfTwo lonelyXact)),
    .reply 1 .read, .reply 1 .scan, .reply 1 .conclude]

theorem scanForAnother_completes :
    ((machine noConflict).execute ScansUpToDate (machine noConflict).init
      scanForAnother).isSome = true := by
  decide +kernel

theorem direct_abort_safe_scanForAnother :
    let cluster := ((machine noConflict).execute ScansUpToDate
      (machine noConflict).init scanForAnother).get scanForAnother_completes
    ∃ answer ∈ cluster.directAborts,
      answer.request.xact = lonelyXact ∧
        .finish lonelyXact true ∉ answer.streamed ∧
        ¬ cluster.Committed lonelyXact := by
  intro cluster
  have safe := direct_abort_safe (Machine.reachable_of_execute
    scanForAnother scanForAnother_completes)
  have answered : ∃ answer ∈ cluster.directAborts,
      answer.request.xact = lonelyXact ∧
        .finish lonelyXact true ∉ answer.streamed := by
    decide +kernel
  obtain ⟨answer, isAnswer, isLonely, notStreamed⟩ := answered
  refine ⟨answer, isAnswer, isLonely, notStreamed, ?_⟩
  have uncommitted := (safe answer isAnswer).resolve_left
    (isLonely ▸ notStreamed)
  rw [isLonely] at uncommitted
  exact uncommitted.1

/-- Before node 1 comes to the first transaction, it commits it. -/
def commitAfterScan : List (Action 3) :=
  scanForAnother ++
    [.clog (.replicate (.finish 1 Clog.firstXact true)),
      .reply 1 (.pick (requestOfTwo Clog.firstXact)), .reply 1 .conclude]

theorem commitAfterScan_completes :
    ((machine noConflict).execute Machine.Always (machine noConflict).init
      commitAfterScan).isSome = true := by
  decide +kernel

/-- A reachable cluster in which a node has answered with a direct abort of a
transaction it has itself committed, with a commit never streamed to the
requester, which still has the transaction prepared. -/
theorem direct_abort_of_committed :
    ∃ cluster, (machine noConflict).Reachable Machine.Always cluster ∧
      ∃ answer ∈ cluster.directAborts,
        .finish answer.request.xact true ∉ answer.streamed ∧
        cluster.Committed answer.request.xact ∧
        .finish answer.request.xact true ∈ cluster.wal answer.responder ∧
        Pending (cluster.wal answer.request.requester)
          answer.request.xact := by
  refine ⟨_, Machine.reachable_of_execute commitAfterScan
    commitAfterScan_completes, ?_⟩
  decide +kernel

end Status
end Multimaster
