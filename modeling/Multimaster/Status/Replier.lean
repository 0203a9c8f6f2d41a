import Multimaster.Gtx.Basic
import Multimaster.Replication.Steps

/-!
# Status requests

`handle_1a_batch` of the replier: the transactions of a batch are looked up one
by one; the first one without a prepared transaction makes the replier read its
`last_online_in` and scan the retained WAL, once for the whole batch.

`GetLoggedPreparedXactState` is taken to report every record of the retained
WAL.  WAL is recycled only up to what every peer has confirmed.
-/

namespace Multimaster
namespace Status

open Generation Replication Gtx

/-- The WAL each peer has confirmed, and the WAL already recycled. -/
structure Retention (n : ℕ) where
  /-- `confirmed sender receiver` records of the sender are confirmed. -/
  confirmed : Fin n → Fin n → ℕ
  recycled : Fin n → ℕ

/-- Nothing confirmed, nothing recycled. -/
def Retention.initial (n : ℕ) : Retention n where
  confirmed := fun _ _ => 0
  recycled := fun _ => 0

/-- A receiver confirms a position of the WAL of a sender. -/
def Retention.confirm
    (retention : Retention n) (sender receiver : Fin n) (position : ℕ) :
    Retention n :=
  { retention with
    confirmed := Function.update retention.confirmed sender
      (Function.update (retention.confirmed sender) receiver position) }

/-- A receiver can confirm what the sender has written. -/
def Retention.CanConfirm
    (retention : Retention n) (cluster : Replication.Cluster n)
    (sender receiver : Fin n) (position : ℕ) : Prop :=
  retention.confirmed sender receiver ≤ position ∧
    position ≤ (cluster.wal sender).length

/-- WAL is recycled up to a position. -/
def Retention.recycle
    (retention : Retention n) (me : Fin n) (position : ℕ) : Retention n :=
  { retention with
    recycled := Function.update retention.recycled me position }

/-- A position up to which every peer has confirmed. -/
def Retention.CanRecycle
    (retention : Retention n) (me : Fin n) (position : ℕ) : Prop :=
  retention.recycled me ≤ position ∧
    ∀ peer, peer ≠ me → position ≤ retention.confirmed me peer

instance (retention : Retention n) (cluster : Replication.Cluster n)
    (sender receiver : Fin n) (position : ℕ) :
    Decidable (retention.CanConfirm cluster sender receiver position) :=
  inferInstanceAs (Decidable (_ ∧ _))

instance (retention : Retention n) (me : Fin n) (position : ℕ) :
    Decidable (retention.CanRecycle me position) :=
  inferInstanceAs (Decidable (_ ∧ _))

/-- `MtmTxRequest` of type `MTReq_Status`. -/
structure StatusRequest (n : ℕ) where
  requester : Fin n
  term : GlobalTxTerm
  xact : Xact n
  deriving DecidableEq

/-- What the replier has read for a batch. -/
structure Scan (n : ℕ) where
  lastOnlineIn : ℕ
  /-- The WAL at the time of the scan, with the number of records recycled. -/
  wal : List (Record n)
  recycled : ℕ

/-- The records `GetLoggedPreparedXactState` goes over. -/
def Scan.retained (scan : Scan n) : List (Record n) :=
  scan.wal.drop scan.recycled

/-- The outcome the scan reports: that of the latest finish record. -/
def Scan.outcome (scan : Scan n) (xact : Xact n) : Option Bool :=
  scan.retained.reverse.findSome? fun record =>
    match record with
    | .finish finished commit =>
        if finished = xact then some commit else none
    | _ => none

/-- `prepare_seen`. -/
def Scan.prepareSeen (scan : Scan n) (xact : Xact n) : Bool :=
  decide (.prepare xact ∈ scan.retained)

/-- The replier of a node. -/
structure Replier (n : ℕ) where
  /-- The rest of the batch. -/
  entries : List (StatusRequest n)
  /-- `last_online_in`, once read for the batch. -/
  lastOnlineIn : Option ℕ
  scan : Option (Scan n)
  /-- The entry that was not found in the fast check. -/
  handling : Option (StatusRequest n)

/-- The replier without a batch. -/
def Replier.idle (n : ℕ) : Replier n where
  entries := []
  lastOnlineIn := none
  scan := none
  handling := none

/-- What `handle_1a` makes of the scan and the second lookup. -/
inductive Verdict
  /-- The WAL has the outcome. -/
  | finished (commit : Bool)
  /-- The transaction is prepared after all. -/
  | prepared
  /-- The transaction can never be committed. -/
  | directAbort
  /-- It might appear in the future. -/
  | unknown
  deriving DecidableEq

/-- The part of `handle_1a` after the scan. -/
def verdict (scan : Scan n) (xact : Xact n) (isPrepared : Bool) : Verdict :=
  match scan.outcome xact with
  | some commit => .finished commit
  | none =>
      if isPrepared then .prepared
      else if scan.prepareSeen xact = false ∧
          xact.gen.num < scan.lastOnlineIn then .directAbort
      else .unknown

/-- The steps of a replier. -/
inductive ReplierAction (n : ℕ)
  /-- A batch of requests is read from the queue. -/
  | start (entries : List (StatusRequest n))
  /-- The fast check for an entry of the batch. -/
  | pick (entry : StatusRequest n)
  /-- `last_online_in` is read. -/
  | read
  /-- `GetLoggedPreparedXactState`. -/
  | scan
  /-- The second lookup and the reply. -/
  | conclude

/-- Whether the replier can take a step. -/
def Replier.Enabled (replier : Replier n) : ReplierAction n → Prop
  | .start _ => replier.entries = [] ∧ replier.handling = none
  | .pick entry => entry ∈ replier.entries ∧ replier.handling = none
  | .read => replier.handling ≠ none ∧ replier.lastOnlineIn = none
  | .scan => replier.lastOnlineIn ≠ none ∧ replier.scan = none
  | .conclude => replier.handling ≠ none ∧ replier.scan.isSome = true

instance (replier : Replier n) (action : ReplierAction n) :
    Decidable (replier.Enabled action) :=
  match action with
  | .start _ => inferInstanceAs (Decidable (_ ∧ _))
  | .pick _ => inferInstanceAs (Decidable (_ ∧ _))
  | .read => inferInstanceAs (Decidable (_ ∧ _))
  | .scan =>
      decidable_of_iff
        (replier.lastOnlineIn ≠ none ∧ replier.scan.isNone = true)
        (by simp [Replier.Enabled])
  | .conclude => inferInstanceAs (Decidable (_ ∧ _))

/-- The replier after a step, in a node with this state and WAL. -/
def Replier.step
    (replier : Replier n) (lastOnlineIn : ℕ) (wal : List (Record n))
    (recycled : ℕ) : ReplierAction n → Replier n
  | .start entries => { Replier.idle n with entries := entries }
  | .pick entry =>
      { replier with
        entries := replier.entries.erase entry
        handling := if Pending wal entry.xact then none else some entry }
  | .read => { replier with lastOnlineIn := some lastOnlineIn }
  | .scan =>
      { replier with
        scan := replier.lastOnlineIn.map fun known =>
          { lastOnlineIn := known, wal := wal, recycled := recycled } }
  | .conclude => { replier with handling := none }

/-- The request whose handling is about to be concluded, with the scan. -/
def Replier.concluding
    (replier : Replier n) : Option (StatusRequest n × Scan n) :=
  replier.handling.bind fun request =>
    replier.scan.map fun scan => (request, scan)

theorem Replier.concluding_eq_some
    {replier : Replier n} {request : StatusRequest n} {scan : Scan n} :
    replier.concluding = some (request, scan) ↔
      replier.handling = some request ∧ replier.scan = some scan := by
  simp [Replier.concluding, Option.bind_eq_some_iff]

/-- All requests the replier has at hand satisfy a property. -/
def Replier.All
    (replier : Replier n) (property : StatusRequest n → Prop) : Prop :=
  (∀ entry ∈ replier.entries, property entry) ∧
    ∀ entry ∈ replier.handling, property entry

theorem Replier.all_idle (property : StatusRequest n → Prop) :
    (Replier.idle n).All property :=
  ⟨fun _ isEntry => (by cases isEntry), fun _ isHandled => (by cases isHandled)⟩

theorem Replier.All.mono
    {replier : Replier n} {property weaker : StatusRequest n → Prop}
    (all : replier.All property)
    (weakening : ∀ entry, property entry → weaker entry) :
    replier.All weaker :=
  ⟨fun entry isEntry => weakening entry (all.1 entry isEntry),
    fun entry isHandled => weakening entry (all.2 entry isHandled)⟩

/-- Only the start of a batch brings requests. -/
theorem Replier.All.step
    {replier : Replier n} {property : StatusRequest n → Prop}
    (all : replier.All property)
    {action : ReplierAction n} (enabled : replier.Enabled action)
    (started : ∀ entries, action = .start entries →
      ∀ entry ∈ entries, property entry)
    {lastOnlineIn : ℕ} {wal : List (Record n)} {recycled : ℕ} :
    (replier.step lastOnlineIn wal recycled action).All property := by
  cases action with
  | start entries =>
      exact ⟨started entries rfl, fun _ isHandled => by cases isHandled⟩
  | pick picked =>
      refine ⟨fun entry isEntry =>
        all.1 entry (List.mem_of_mem_erase isEntry), ?_⟩
      intro entry isHandled
      simp only [Replier.step] at isHandled
      split at isHandled
      · cases isHandled
      · cases isHandled
        exact all.1 picked enabled.1
  | read => exact all
  | scan => exact all
  | conclude => exact ⟨all.1, fun _ isHandled => by cases isHandled⟩

/-! ## What the replier knows -/

/-- Only confirmed WAL is recycled. -/
def RetentionOk (retention : Retention n) : Prop :=
  ∀ me peer, peer ≠ me → retention.recycled me ≤ retention.confirmed me peer

/-- What holds of a scan: it has all viable transactions of earlier
generations, and everything it could not see is confirmed by all peers. -/
structure ScanOk
    (cluster : Replication.Cluster n) (retention : Retention n)
    (me : Fin n) (scan : Scan n) : Prop where
  past : scan.wal <+: cluster.wal me
  viable : ∀ xact, Viable cluster xact →
    xact.gen.num < scan.lastOnlineIn → .prepare xact ∈ scan.wal
  recycled : scan.recycled ≤ retention.recycled me

/-- What holds of a replier. -/
structure ReplierOk
    (cluster : Replication.Cluster n) (retention : Retention n)
    (me : Fin n) (replier : Replier n) : Prop where
  read : ∀ num, replier.lastOnlineIn = some num →
    num ∈ cluster.election.online me
  scan : ∀ scan, replier.scan = some scan →
    ScanOk cluster retention me scan

theorem replierOk_idle
    (cluster : Replication.Cluster n) (retention : Retention n)
    (me : Fin n) :
    ReplierOk cluster retention me (Replier.idle n) :=
  ⟨fun _ isRead => (by cases isRead), fun _ isScan => (by cases isScan)⟩

theorem ScanOk.mono
    {before after : Replication.Cluster n} {retention later : Retention n}
    {me : Fin n} {scan : Scan n}
    (ok : ScanOk before retention me scan)
    (grows : Grows before after)
    (recycled : retention.recycled me ≤ later.recycled me) :
    ScanOk after later me scan where
  past := ok.past.trans (grows.wal me)
  viable := fun xact viable =>
    ok.viable xact (viable.of_grows grows)
  recycled := le_trans ok.recycled recycled

theorem ReplierOk.mono
    {before after : Replication.Cluster n} {retention later : Retention n}
    {me : Fin n} {replier : Replier n}
    (ok : ReplierOk before retention me replier)
    (grows : Grows before after)
    (recycled : retention.recycled me ≤ later.recycled me) :
    ReplierOk after later me replier where
  read := fun num isRead => grows.online me (ok.read num isRead)
  scan := fun scan isScan => (ok.scan scan isScan).mono grows recycled

/-- Every step of a replier keeps what it knows. -/
theorem ReplierOk.step
    {cluster : Replication.Cluster n} {retention : Retention n}
    {me : Fin n} {replier : Replier n}
    (invariant : Replication.Invariant cluster)
    (ok : ReplierOk cluster retention me replier)
    (action : ReplierAction n) :
    ReplierOk cluster retention me
      (replier.step (cluster.node me).lastOnlineIn (cluster.wal me)
        (retention.recycled me) action) := by
  cases action with
  | start entries => exact ⟨by simp [Replier.step, Replier.idle],
      by simp [Replier.step, Replier.idle]⟩
  | pick entry => exact ⟨ok.read, ok.scan⟩
  | read =>
      refine ⟨?_, ok.scan⟩
      intro num isRead
      have isLast : (cluster.node me).lastOnlineIn = num :=
        Option.some_injective _ isRead
      rw [← isLast]
      exact (invariant.election.node me).onlineLast
  | scan =>
      refine ⟨ok.read, ?_⟩
      intro scan isScan
      obtain ⟨num, isRead, isScan⟩ := Option.map_eq_some_iff.mp isScan
      subst isScan
      exact {
        past := List.prefix_refl _
        viable := fun xact viable earlier =>
          invariant.online me num (ok.read num isRead) xact viable earlier
        recycled := le_refl _ }
  | conclude => exact ⟨ok.read, ok.scan⟩

theorem RetentionOk.confirm
    {cluster : Replication.Cluster n} {retention : Retention n}
    (ok : RetentionOk retention)
    {sender receiver : Fin n} {position : ℕ}
    (can : retention.CanConfirm cluster sender receiver position) :
    RetentionOk (retention.confirm sender receiver position) := by
  intro me peer different
  have before := ok me peer different
  have further := can.1
  simp only [Retention.confirm, Function.update_apply]
  split
  · next sameSender =>
      subst sameSender
      rw [Function.update_apply]
      split
      · next sameReceiver =>
          subst sameReceiver
          omega
      · exact before
  · exact before

theorem RetentionOk.recycle
    {retention : Retention n}
    (ok : RetentionOk retention)
    {me : Fin n} {position : ℕ}
    (can : retention.CanRecycle me position) :
    RetentionOk (retention.recycle me position) := by
  intro other peer different
  simp only [Retention.recycle, Function.update_apply]
  split
  · next same =>
      subst same
      exact can.2 peer different
  · exact ok other peer different

/-! ## What a verdict means -/

theorem Scan.outcome_eq_none
    {scan : Scan n} {xact : Xact n}
    (nothing : scan.outcome xact = none) (commit : Bool) :
    .finish xact commit ∉ scan.retained := by
  intro inScan
  rw [Scan.outcome, List.findSome?_eq_none_iff] at nothing
  have absent := nothing _ (List.mem_reverse.mpr inScan)
  simp at absent

theorem Scan.mem_of_outcome
    {scan : Scan n} {xact : Xact n} {commit : Bool}
    (found : scan.outcome xact = some commit) :
    .finish xact commit ∈ scan.retained := by
  rw [Scan.outcome, List.findSome?_eq_some_iff] at found
  obtain ⟨front, record, back, whole, isFound, _⟩ := found
  have inScan : record ∈ scan.retained := by
    rw [← List.mem_reverse, whole]
    simp
  cases record with
  | parallelSafe gen donors => cases isFound
  | prepare prepared => cases isFound
  | finish finished outcome =>
      dsimp only at isFound
      split at isFound
      · next same =>
          subst same
          cases isFound
          exact inScan
      · cases isFound

/-- A record of the scanned WAL that the scan did not see is recycled. -/
theorem Scan.mem_take_of_notMem
    {scan : Scan n} {record : Record n}
    (written : record ∈ scan.wal) (unseen : record ∉ scan.retained) :
    record ∈ scan.wal.take scan.recycled := by
  rw [← List.take_append_drop scan.recycled scan.wal,
    List.mem_append] at written
  exact written.resolve_right unseen

theorem outcome_of_verdict
    {scan : Scan n} {xact : Xact n} {isPrepared commit : Bool}
    (isFinished : verdict scan xact isPrepared = .finished commit) :
    scan.outcome xact = some commit := by
  unfold verdict at isFinished
  split at isFinished
  · next found =>
      cases isFinished
      exact found
  · split at isFinished
    · cases isFinished
    · split at isFinished <;> cases isFinished

theorem isPrepared_of_verdict
    {scan : Scan n} {xact : Xact n} {isPrepared : Bool}
    (found : verdict scan xact isPrepared = .prepared) :
    isPrepared = true := by
  unfold verdict at found
  split at found
  · cases found
  · split at found
    · next isPrepared => exact isPrepared
    · split at found <;> cases found

/-- The direct abort is given without a trace of the transaction. -/
theorem verdict_eq_directAbort
    {scan : Scan n} {xact : Xact n} {isPrepared : Bool} :
    verdict scan xact isPrepared = .directAbort ↔
      scan.outcome xact = none ∧ isPrepared = false ∧
        .prepare xact ∉ scan.retained ∧
        xact.gen.num < scan.lastOnlineIn := by
  unfold verdict
  cases found : scan.outcome xact with
  | some commit => simp
  | none =>
      cases isPrepared with
      | true => simp
      | false =>
          by_cases direct : scan.prepareSeen xact = false ∧
              xact.gen.num < scan.lastOnlineIn
          · rw [if_neg (by simp), if_pos direct]
            simpa [Scan.prepareSeen] using direct
          · rw [if_neg (by simp), if_neg direct]
            simp only [Scan.prepareSeen, decide_eq_false_iff_not] at direct
            simpa using direct

end Status
end Multimaster
